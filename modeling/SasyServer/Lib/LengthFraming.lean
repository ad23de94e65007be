import Mathlib.Data.List.Basic

/-!
# Frames behind a length header

A stream in which each frame is a header of a fixed length, which says how long the frame is, and the frame itself. The
splitter reads the stream symbol by symbol, so that it does not matter in which pieces the stream comes: after `feed` of one
piece it goes on with the next one.

`split_frames_iff` is exact: a stream of frames is cut back into these frames if and only if every header
says the length of its frame.
-/

namespace LengthFraming

variable {α : Type*}

/-- What the splitter has read of the current frame: a part of the header, or the header and a part of the frame,
which is not complete. -/
inductive Part (α : Type*) where
  | header (read : List α)
  | body (length : Nat) (read : List α)
  deriving DecidableEq, Repr

/-- The splitter: the frames that are complete, and the current one. -/
structure Splitter (α : Type*) where
  frames : List (List α)
  part : Part α
  deriving DecidableEq, Repr

/-- Nothing has been read. -/
def Splitter.init : Splitter α := ⟨[], .header []⟩

/-- The header is complete, and the frame has this length. -/
def Splitter.start (s : Splitter α) (length : Nat) : Splitter α :=
  if length = 0 then ⟨s.frames ++ [[]], .header []⟩ else ⟨s.frames, .body length []⟩

/-- One symbol. `size` is what a header says. -/
def Splitter.push (headerLength : Nat) (size : List α → Nat) (s : Splitter α) (x : α) : Splitter α :=
  match s.part with
  | .header read =>
    if read.length + 1 = headerLength then s.start (size (read ++ [x])) else ⟨s.frames, .header (read ++ [x])⟩
  | .body length read =>
    if read.length + 1 = length then ⟨s.frames ++ [read ++ [x]], .header []⟩ else ⟨s.frames, .body length (read ++ [x])⟩

/-- A piece of the stream. -/
def Splitter.feed (headerLength : Nat) (size : List α → Nat) (s : Splitter α) (piece : List α) : Splitter α :=
  piece.foldl (Splitter.push headerLength size) s

section Rules

variable {headerLength : Nat} {size : List α → Nat} {s : Splitter α}

/-- A stream may come in any pieces. -/
theorem feed_append (s : Splitter α) (a b : List α) :
    s.feed headerLength size (a ++ b) = (s.feed headerLength size a).feed headerLength size b := List.foldl_append

theorem feed_cons (s : Splitter α) (x : α) (a : List α) :
    s.feed headerLength size (x :: a) = (s.push headerLength size x).feed headerLength size a := rfl

theorem feed_flatten (s : Splitter α) (pieces : List (List α)) :
    s.feed headerLength size pieces.flatten = pieces.foldl (Splitter.feed headerLength size) s := by
  induction pieces generalizing s with
  | nil => rfl
  | cons a pieces ih => rw [List.flatten_cons, feed_append, ih, List.foldl_cons]

/-- The rest of a header. -/
theorem feed_header (frames : List (List α)) (read rest : List α) (hrest : rest ≠ [])
    (h : read.length + rest.length = headerLength) :
    (⟨frames, .header read⟩ : Splitter α).feed headerLength size rest = Splitter.start ⟨frames, .header read⟩
    (size (read ++ rest)) := by
  induction rest generalizing read with
  | nil => exact absurd rfl hrest
  | cons x rest ih =>
    rw [List.length_cons] at h
    rw [feed_cons, Splitter.push]
    dsimp only
    cases rest with
    | nil =>
      rw [List.length_nil, Nat.zero_add] at h
      rw [if_pos h]
      rfl
    | cons y rest =>
      rw [if_neg (by rw [List.length_cons] at h; omega), ih (read ++ [x]) (List.cons_ne_nil _ _)
        (by rw [List.length_append, List.length_singleton]; omega), List.append_assoc]
      rfl

/-- The rest of a frame. -/
theorem feed_body (frames : List (List α)) (length : Nat) (read rest : List α) (hrest : rest ≠ [])
    (h : read.length + rest.length = length) :
    (⟨frames, .body length read⟩ : Splitter α).feed headerLength size rest = ⟨frames ++ [read ++ rest], .header []⟩ := by
  induction rest generalizing read with
  | nil => exact absurd rfl hrest
  | cons x rest ih =>
    rw [List.length_cons] at h
    rw [feed_cons, Splitter.push]
    dsimp only
    cases rest with
    | nil =>
      rw [List.length_nil, Nat.zero_add] at h
      rw [if_pos h]
      rfl
    | cons y rest =>
      rw [if_neg (by rw [List.length_cons] at h; omega), ih (read ++ [x]) (List.cons_ne_nil _ _)
        (by rw [List.length_append, List.length_singleton]; omega), List.append_assoc]
      rfl

/-- A part of a frame. -/
theorem feed_body_part (frames : List (List α)) (length : Nat) (read rest : List α)
    (h : read.length + rest.length < length) :
    (⟨frames, .body length read⟩ : Splitter α).feed headerLength size rest = ⟨frames, .body length (read ++ rest)⟩ := by
  induction rest generalizing read with
  | nil => rw [List.append_nil]; rfl
  | cons x rest ih =>
    rw [List.length_cons] at h
    rw [feed_cons, Splitter.push]
    dsimp only
    rw [if_neg (by omega), ih (read ++ [x]) (by rw [List.length_append, List.length_singleton]; omega), List.append_assoc]
    rfl

/-- A header and a frame of the length it says. -/
theorem feed_frame (frames : List (List α)) {header body : List α} (hpos : 0 < headerLength)
    (hheader : header.length = headerLength) (hsize : size header = body.length) :
    (⟨frames, .header []⟩ : Splitter α).feed headerLength size (header ++ body) = ⟨frames ++ [body], .header []⟩ := by
  have hne : header ≠ [] := by
    rintro rfl
    rw [List.length_nil] at hheader
    omega
  rw [feed_append, feed_header frames [] header hne (by rw [List.length_nil]; omega), List.nil_append, Splitter.start, hsize]
  cases body with
  | nil => rfl
  | cons x body =>
    rw [if_neg (by simp), feed_body frames _ [] (x :: body) (List.cons_ne_nil _ _) (by simp)]
    rfl

/-! ## Frames only come at the end -/

theorem push_frames (s : Splitter α) (x : α) : ∃ more, (s.push headerLength size x).frames = s.frames ++ more := by
  unfold Splitter.push Splitter.start
  split
  · split
    · split
      · exact ⟨_, rfl⟩
      · exact ⟨[], (List.append_nil _).symm⟩
    · exact ⟨[], (List.append_nil _).symm⟩
  · split
    · exact ⟨_, rfl⟩
    · exact ⟨[], (List.append_nil _).symm⟩

theorem feed_frames (s : Splitter α) (piece : List α) :
    ∃ more, (s.feed headerLength size piece).frames = s.frames ++ more := by
  induction piece generalizing s with
  | nil => exact ⟨[], (List.append_nil _).symm⟩
  | cons x piece ih =>
    obtain ⟨more, hmore⟩ : ∃ more, (s.push headerLength size x).frames = s.frames ++ more := push_frames s x
    obtain ⟨more', hmore'⟩ := ih (s.push headerLength size x)
    exact ⟨more ++ more', by rw [feed_cons, hmore', hmore, List.append_assoc]⟩

/-- The frames that are complete do not matter for what follows. -/
theorem push_frames_append (frames : List (List α)) (s : Splitter α) (x : α) :
    Splitter.push headerLength size ⟨frames ++ s.frames, s.part⟩ x =
      ⟨frames ++ (s.push headerLength size x).frames, (s.push headerLength size x).part⟩ := by
  unfold Splitter.push Splitter.start
  dsimp only
  split
  · split
    · split
      · rw [List.append_assoc]
      · rfl
    · rfl
  · split
    · rw [List.append_assoc]
    · rfl

theorem feed_frames_append (frames : List (List α)) (s : Splitter α) (piece : List α) :
    Splitter.feed headerLength size ⟨frames ++ s.frames, s.part⟩ piece =
      ⟨frames ++ (s.feed headerLength size piece).frames, (s.feed headerLength size piece).part⟩ := by
  induction piece generalizing s with
  | nil => rfl
  | cons x piece ih => rw [feed_cons, push_frames_append, ih, feed_cons]

/-- The next frame has the length its header says. -/
theorem feed_next (frames : List (List α)) {header : List α} (hpos : 0 < headerLength)
    (hheader : header.length = headerLength) (rest : List α) :
    ((⟨frames, .header []⟩ : Splitter α).feed headerLength size (header ++ rest)).frames = frames ∨
      ∃ frame more, ((⟨frames, .header []⟩ : Splitter α).feed headerLength size (header ++ rest)).frames = frames ++
        frame :: more ∧
        frame.length = size header := by
  by_cases hlt : rest.length < size header
  · left
    have hne : header ≠ [] := by
      rintro rfl
      rw [List.length_nil] at hheader
      omega
    rw [feed_append, feed_header frames [] header hne (by rw [List.length_nil]; omega), List.nil_append, Splitter.start,
      if_neg (by omega), feed_body_part frames _ [] rest (by rw [List.length_nil]; omega)]
  · right
    have htake : (rest.take (size header)).length = size header := by
      rw [List.length_take]
      omega
    obtain ⟨more, hmore⟩ := @feed_frames _ headerLength size
      ((⟨frames, .header []⟩ : Splitter α).feed headerLength size (header ++ rest.take (size header)))
        (rest.drop (size header))
    refine ⟨rest.take (size header), more, ?_, htake⟩
    rw [← feed_append, List.append_assoc, List.take_append_drop] at hmore
    rw [hmore, feed_frame frames hpos hheader htake.symm, List.append_assoc]
    rfl

end Rules

/-- A stream of frames is cut back into them exactly if each header says the length of its frame. -/
theorem split_frames_iff {headerLength : Nat} {size : List α → Nat} (hpos : 0 < headerLength) {β : Type*}
    (header body : β → List α) :
    ∀ (fs : List β), (∀ f ∈ fs, (header f).length = headerLength) → ∀ frames,
      (((⟨frames, .header []⟩ : Splitter α).feed headerLength size (fs.flatMap fun f => header f ++ body f)).frames =
          frames ++ fs.map body ↔ ∀ f ∈ fs, size (header f) = (body f).length) := by
  intro fs
  induction fs with
  | nil => exact fun _ frames => iff_of_true (List.append_nil _).symm nofun
  | cons f fs ih =>
    intro hheader frames
    obtain ⟨hf, hfs⟩ := List.forall_mem_cons.1 hheader
    rw [List.flatMap_cons, List.map_cons, List.forall_mem_cons]
    by_cases hsize : size (header f) = (body f).length
    · rw [feed_append, feed_frame frames hpos hf hsize, List.append_cons frames (body f) (fs.map body), ih hfs]
      exact (and_iff_right hsize).symm
    · refine iff_of_false (fun hsplit => hsize ?_) fun h => hsize h.1
      rw [List.append_assoc] at hsplit
      rcases feed_next frames hpos hf (body f ++ fs.flatMap fun f => header f ++ body f) with hnone |
        ⟨frame, more, hframe, hlength⟩
      · rw [hsplit] at hnone
        exact absurd (List.append_right_eq_self.1 hnone) (List.cons_ne_nil _ _)
      · rw [hsplit] at hframe
        obtain ⟨rfl, -⟩ := List.cons.inj (List.append_cancel_left hframe)
        exact hlength.symm

end LengthFraming
