import BadgeLink.Proofs.Link.Scripted
import BadgeLink.Serial.Bench

/-!
# Scripts that bring a stream in pieces

The script of a bench brings a stream of bytes in pieces of any size, between interruptions and delays.
It is orderly if no read fails, and none ends without bytes as long as there are bytes to come.  Then
the bench mirrors a scripted link that holds the same stream in one piece: a read takes some bytes from
the front of the stream, is interrupted, or finds that nothing is left.
-/

namespace BadgeLink
namespace Serial

namespace ReadEvent

/-- The bytes that a script of reads brings. -/
def stream : List ReadEvent → List UInt8
  | [] => []
  | .data bytes :: rest => bytes ++ stream rest
  | _ :: rest => stream rest

/-- No piece is empty, and a read that brings nothing or times out comes after all pieces. -/
def Orderly : List ReadEvent → Prop
  | [] => True
  | .data bytes :: rest => bytes ≠ [] ∧ Orderly rest
  | .interrupted :: rest | .delay _ :: rest => Orderly rest
  | .nothing :: rest | .timedOut :: rest => stream rest = [] ∧ Orderly rest
  | .failed _ :: _ => False

end ReadEvent

/-- What a read of at most `count` bytes may yield of a stream, and how many bytes it takes for that. -/
inductive Piece.Front (count : Nat) (stream : List UInt8) : Piece → Nat → Prop
  | bytes {taken : Nat} (hpos : 0 < taken) (hcount : taken ≤ count) (hstream : taken ≤ stream.length) :
    Front count stream (.bytes (stream.take taken)) taken
  | nothing (hstream : stream = []) : Front count stream (.bytes []) 0
  | timedOut (hstream : stream = []) : Front count stream .timedOut 0
  | interrupted : Front count stream .interrupted 0

theorem Piece.Front.of_append
    {count : Nat} {front : List UInt8} (hcount : 0 < count) (hfront : front ≠ [])
    (rest : List UInt8) :
    Front count (front ++ rest) (.bytes (front.take (min count front.length)))
      (min count front.length) := by
  have hpos : 0 < min count front.length := by
    have := List.length_pos_iff.mpr hfront
    omega
  have hle : min count front.length ≤ (front ++ rest).length := by
    rw [List.length_append]
    omega
  rw [← List.take_append_of_le_length (Nat.min_le_right count front.length)]
  exact .bytes hpos (Nat.min_le_left _ _) hle

/-- A write that makes progress, or is only interrupted. -/
def WriteEvent.Takes : WriteEvent → Prop
  | .atMost count => 0 < count
  | .interrupted => True
  | .failed _ => False

namespace Bench

open ReadEvent (stream)

theorem play_data_of_le {bytes : List UInt8} {count : Nat} (hfits : bytes.length ≤ count)
    (rest : List ReadEvent) : play count (.data bytes :: rest) = (.bytes bytes, 0, rest) := by
  rw [play, List.drop_eq_nil_of_le hfits, List.take_of_length_le hfits]
  rfl

theorem play_data_of_lt {bytes : List UInt8} {count : Nat} (hlong : count < bytes.length)
    (rest : List ReadEvent) :
    play count (.data bytes :: rest) =
      (.bytes (bytes.take count), 0, .data (bytes.drop count) :: rest) := by
  have hleft : (bytes.drop count).isEmpty = false := by
    rw [List.isEmpty_eq_false_iff, Ne, List.drop_eq_nil_iff]
    omega
  rw [play, hleft]
  rfl

/-- A read takes what it yields from the front of the stream, and an interruption is used up by it. -/
theorem play_takes_front
    {reads : List ReadEvent} (h : ReadEvent.Orderly reads) {count : Nat} (hcount : 0 < count) :
    ∃ taken, Piece.Front count (stream reads) (play count reads).1 taken ∧
      stream (play count reads).2.2 = (stream reads).drop taken ∧
      ReadEvent.Orderly (play count reads).2.2 ∧
      (play count reads).2.2.length ≤ reads.length ∧
      ((play count reads).1 = .interrupted → (play count reads).2.2.length < reads.length) := by
  induction reads with
  | nil => exact ⟨0, .timedOut rfl, rfl, trivial, Nat.le_refl 0, nofun⟩
  | cons event rest ih =>
      cases event with
      | data bytes =>
          have hstream : stream (.data bytes :: rest) = bytes ++ stream rest := rfl
          have hpiece := Piece.Front.of_append hcount h.1 (stream rest)
          rcases Nat.lt_or_ge count bytes.length with hlong | hfits
          · rw [play_data_of_lt hlong, hstream]
            rw [Nat.min_eq_left (Nat.le_of_lt hlong)] at hpiece
            have hleft : bytes.drop count ≠ [] := by
              rw [Ne, List.drop_eq_nil_iff]
              omega
            exact ⟨count, hpiece, (List.drop_append_of_le_length (Nat.le_of_lt hlong)).symm,
              ⟨hleft, h.2⟩, Nat.le_refl _, nofun⟩
          · rw [play_data_of_le hfits, hstream]
            rw [Nat.min_eq_right hfits, List.take_length] at hpiece
            exact ⟨bytes.length, hpiece, List.drop_left.symm, h.2, Nat.le_succ _, nofun⟩
      | nothing => exact ⟨0, .nothing h.1, rfl, h.2, Nat.le_succ _, nofun⟩
      | timedOut => exact ⟨0, .timedOut h.1, rfl, h.2, Nat.le_succ _, nofun⟩
      | interrupted =>
          exact ⟨0, .interrupted, rfl, h, Nat.le_succ _, fun _ => Nat.lt_succ_self _⟩
      | delay time =>
          -- A delay takes time and nothing else.
          obtain ⟨taken, hpiece, hleft, horderly, hlength, hshorter⟩ := ih h
          exact ⟨taken, hpiece, hleft, horderly, Nat.le_succ_of_le hlength,
            fun hi => Nat.lt_succ_of_lt (hshorter hi)⟩
      | failed message => exact h.elim

/-! ## Benches and scripted links -/

/-- All bytes that can still be received, in their order. -/
def unread (b : Bench) : List UInt8 :=
  b.stale ++ stream b.reads

/-- The scripted link with the same bytes in one piece and the same record of what has happened. -/
def unsplit (b : Bench) : Scripted where
  stale := b.stale
  incoming := stream b.reads
  sent := b.sent
  clears := b.clears
  log := b.log

/-- A bench on which no request fails, and no read ends before its time as long as bytes are to come. -/
structure Orderly (b : Bench) : Prop where
  reads : ReadEvent.Orderly b.reads
  writes : ∀ event ∈ b.writes, event.Takes
  unflushed : b.unflushed = []
  clearFault : b.clearFault = none
  timeoutFault : b.timeoutFault = none
  flushFault : b.flushFault = none

/-- An orderly bench with the same bytes as a scripted link without faults, on which the same has
happened. -/
structure Mirrors (b : Bench) (s : Scripted) : Prop extends b.Orderly where
  faults : s.faults = []
  stale : b.stale = s.stale
  incoming : stream b.reads = s.incoming
  sent : b.sent = s.sent
  clears : b.clears = s.clears
  log : b.log = s.log

theorem Orderly.mirrors_unsplit {b : Bench} (h : b.Orderly) : b.Mirrors b.unsplit :=
  { h with faults := rfl, stale := rfl, incoming := rfl, sent := rfl, clears := rfl, log := rfl }

theorem Mirrors.unread_eq {b : Bench} {s : Scripted} (h : b.Mirrors s) : b.unread = s.unread := by
  rw [unread, Scripted.unread, h.stale, h.incoming]

theorem read_of_stale {b : Bench} (hstale : b.stale ≠ []) {count : Nat} :
    b.read count = (.bytes (b.stale.take (min count b.stale.length)),
      { b with stale := b.stale.drop (min count b.stale.length) }) := by
  have hempty : b.stale.isEmpty = false := List.isEmpty_eq_false_iff.mpr hstale
  rw [Bench.read, hempty]
  rcases Nat.le_total count b.stale.length with hle | hge
  · rw [Nat.min_eq_left hle]
    rfl
  · rw [Nat.min_eq_right hge, List.take_length, List.drop_length]
    simp [List.take_of_length_le hge, List.drop_eq_nil_of_le hge]

theorem read_of_no_stale {b : Bench} (hstale : b.stale = []) {count : Nat} :
    b.read count = ((play count b.reads).1,
      { b with reads := (play count b.reads).2.2, time := b.time + (play count b.reads).2.1 }) := by
  rw [Bench.read, hstale]
  rfl

/-- A read on a bench takes from its mirror image what it yields. -/
theorem Mirrors.read
    {b : Bench} {s : Scripted} (h : b.Mirrors s) {count : Nat} (hcount : 0 < count) :
    ∃ taken, Piece.Front count s.unread (b.read count).1 taken ∧
      (b.read count).2.Mirrors (s.consume taken) ∧ (b.read count).2.looks = b.looks ∧
      (b.read count).2.reads.length ≤ b.reads.length ∧
      ((b.read count).1 = .interrupted → (b.read count).2.reads.length < b.reads.length) := by
  by_cases hstale : b.stale = []
  · obtain ⟨taken, hpiece, hleft, horderly, hlength, hshorter⟩ := play_takes_front h.reads hcount
    have hnone : s.stale = [] := h.stale.symm.trans hstale
    have hunread : s.unread = stream b.reads := by
      rw [Scripted.unread, hnone, h.incoming, List.nil_append]
    rw [read_of_no_stale hstale, hunread]
    refine ⟨taken, hpiece, ?_, rfl, hlength, hshorter⟩
    refine { h with reads := horderly, stale := ?_, incoming := ?_ }
    · rw [Scripted.stale_consume, hnone, List.drop_nil]
      exact hstale
    · rw [Scripted.incoming_consume, hnone, List.length_nil, Nat.sub_zero, ← h.incoming]
      exact hleft
  · have hpiece := Piece.Front.of_append hcount hstale (stream b.reads)
    rw [read_of_stale hstale, ← h.unread_eq]
    refine ⟨_, hpiece, ?_, rfl, Nat.le_refl _, Piece.noConfusion⟩
    refine { h with stale := ?_, incoming := ?_ }
    · rw [Scripted.stale_consume, ← h.stale]
    · rw [Scripted.incoming_consume, ← h.stale, Nat.sub_eq_zero_of_le (Nat.min_le_right _ _),
        List.drop_zero]
      exact h.incoming

/-! ## Requests to the port of a bench -/

theorem bind_of_eq
    {σ α β : Type} {x : StateM σ α} {a : α} {before after : σ} {f : α → StateM σ β}
    (hx : x before = (a, after)) : (x >>= f) before = f a after := by
  show f (x before).1 (x before).2 = f a after
  rw [hx]

theorem port_now (b : Bench) : port.now b = (b.look.1, b.look.2) :=
  rfl

theorem port_read (count : Nat) (b : Bench) :
    port.read count b = ((b.read count).1, (b.read count).2) :=
  rfl

end Bench
end Serial
end BadgeLink
