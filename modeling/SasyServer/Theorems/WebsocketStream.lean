import SasyServer.Lemmas.FrameStream

/-!
# Theorem: every complete frame is delivered once, in order, however the stream is cut

The chunks of any number of connections are fed to the filter in any order. Some of the connections (those of `G`) are
past the handshake and send well-formed frames; the others send what they like, in or past the handshake. What the filter
delivers for a connection of `G` are the complete frames of its stream. A chunk of one of the others can ask for a
negative size, which ends the process, or be written past `header[1024]`, after which nothing is defined, though the
process may go on; nothing else can.
-/

namespace SasyServer.Websocket

/-- From any state the filter can be in, for the connections of `G` without an unfinished packet in it: the chunks are taken
one after the other, up to the last or up to one of a connection outside `G` that ends the process or its defined behaviour,
and what is delivered for a connection of `G` are the complete frames of the bytes it has sent, in their order. -/
theorem delivers_complete_frames (G : Nat → Prop) (frames : Nat → List Frame) (history cs : List Chunk) (L : Option Queue)
    (before : List Out) (hhist : run none history = .ok (L, before)) (hfresh : ∀ fd, G fd → findUncomplete L fd = none)
    (hfed : WellFed G frames cs) :
    ∃ pre post L' outs, cs = pre ++ post ∧ run L pre = .ok (L', outs) ∧
      (∀ fd, G fd → outsOf fd outs = (completeFrames (frames fd) (streamOf fd pre).length).map (Frame.out fd)) ∧
      (post = [] ∨ ∃ c rest fault, post = c :: rest ∧ ¬G c.fd ∧ feed L' c = .error fault) := by
  obtain ⟨hg, h0⟩ := run_serves good_none packets_none hhist
  obtain ⟨pre, post, L', outs, hcs, hrun, hall, hpost⟩ := run_stream G frames cs L (fun _ => 0) hg h0
    (fun fd hG => (at_zero fd _ _).2 (pending_of_find_none (hfresh fd hG))) hfed.chunk hfed.stream
  refine ⟨pre, post, L', outs, hcs, hrun, ?_, hpost⟩
  intro fd hG
  obtain ⟨-, new, ho, hc⟩ := hall fd hG
  rw [completeFrames_zero, List.nil_append, Nat.zero_add] at hc
  rw [ho, hc]

/-- A masked frame of three bytes. -/
def maskedFrame : Frame := ⟨2, .short, some ⟨0x11, 0x22, 0x33, 0x44⟩, [5, 6, 7], by decide, by decide, by decide⟩

/-- An unmasked frame of two bytes with its length in sixteen bits. -/
def longFrame : Frame := ⟨1, .ext16, none, [8, 9], by decide, by decide, by decide⟩

/-- Two frames cut inside the mask key and inside the second header, with the bytes of another
connection between the cuts. -/
theorem delivers_complete_frames_two_cuts :
    ∃ pre post L' outs,
      ([⟨1, [0x82, 0x83, 0x11], false⟩, ⟨2, [0xff, 0xff, 0x81, 0x01, 0x20], false⟩,
        ⟨1, [0x22, 0x33, 0x44, 0x14, 0x24, 0x34, 0x81], false⟩, ⟨1, [0x7e, 0, 2, 8, 9], false⟩] : List Chunk) = pre ++ post ∧
      run none pre = .ok (L', outs) ∧
      (∀ fd, fd = 1 →
        outsOf fd outs = (completeFrames [maskedFrame, longFrame] (streamOf fd pre).length).map (Frame.out fd)) ∧
      (post = [] ∨ ∃ c rest fault, post = c :: rest ∧ ¬c.fd = 1 ∧ feed L' c = .error fault) := by
  refine delivers_complete_frames (fun fd => fd = 1) (fun _ => [maskedFrame, longFrame]) [] _ none [] rfl
    (fun fd _ => rfl) ⟨by decide, ?_⟩
  rintro fd rfl
  decide

end SasyServer.Websocket
