import InfluxKeeper.Proofs.Success
import InfluxKeeper.Text.Stream

/-!
# Texts in chunks

A file is decoded chunk by chunk, and a chunk may end within a character. The octets of that character are kept
and decoded once more in front of the next chunk.

> `Stream.read_of_decodes`: reading a file that is a text, piece by piece, never fails.

Decoding goes on over the end of a chunk as if it were not there (`decodePart_append`). What makes that so is that
the octets kept lead back to the character under way (`Pending.Reopens`).
-/

namespace InfluxKeeper.Text

namespace Utf8

/-- The octets read of a character under way lead to it once more. -/
def Pending.Reopens (p : Pending) : Prop :=
  ∀ position text octets, decodeFrom position none text (p.octets.reverse ++ octets) =
    decodeFrom position (some p) text octets

theorem Pending.octets_start {b : UInt8} {p : Pending} (h : start? b = some p) : p.octets = [b] := by
  unfold start? at h
  dsimp only at h
  split at h
  · rw [← Option.some.inj h]
  split at h
  · rw [← Option.some.inj h]
  split at h
  · rw [← Option.some.inj h]
  · cases h

theorem Pending.reopens_start {b : UInt8} {p : Pending} (hb : ¬b < 0x80) (h : start? b = some p) : p.Reopens := by
  intro position text octets
  rw [octets_start h]
  show decodeFrom position none text (b :: octets) = _
  rw [decodeFrom, if_neg hb, h]

theorem Pending.Reopens.next {p : Pending} (h : p.Reopens) {b : UInt8}
    (hb : p.low ≤ b.toNat ∧ b.toNat ≤ p.high) (hm : p.missing ≠ 1) :
    Pending.Reopens ⟨p.bits * 64 + (b.toNat - 0x80), p.missing - 1, 0x80, 0xBF, b :: p.octets⟩ := by
  intro position text octets
  show decodeFrom position none text ((b :: p.octets).reverse ++ octets) = _
  rw [List.reverse_cons, List.append_assoc, h]
  show decodeFrom position (some p) text (b :: octets) = _
  rw [decodeFrom, if_pos hb, if_neg hm]

/-- Whether octets are a text does not depend on where they stand and on what was read before. -/
theorem error_decodeFrom_congr {position position' : Nat} {text text' : List Char} {pending : Option Pending}
    {octets : List UInt8} :
    (decodeFrom position pending text octets).error = none ↔
      (decodeFrom position' pending text' octets).error = none := by
  induction octets generalizing position position' text text' pending with
  | nil => cases pending <;> simp [decodeFrom]
  | cons b rest ih =>
    cases pending with
    | none =>
      unfold decodeFrom
      dsimp only
      split
      · exact ih
      split
      · exact ih
      · simp
    | some p =>
      unfold decodeFrom
      dsimp only
      split
      · split
        · exact ih
        · exact ih
      · simp

theorem decode_ok_iff {octets : List UInt8} :
    (∃ text, decode octets = .ok text) ↔ (decodeFrom 0 none [] octets).error = none := by
  unfold decode
  cases h : decodeFrom 0 none [] octets with
  | mk text error =>
    cases error with
    | none => exact ⟨fun _ => rfl, fun _ => ⟨text, rfl⟩⟩
    | some e => exact ⟨fun ⟨_, ht⟩ => (by cases ht), fun he => (by cases he)⟩

/-- Where decoding stands after some octets: the characters read end at its position, and what follows leads back to
the character under way. -/
inductive Standing (before : List UInt8) : Nat → Option Pending → Prop
  | between : Standing before before.length none
  | within {position : Nat} {p : Pending} (kept : before.drop position = p.octets.reverse)
      (length : position + p.octets.length = before.length) (reopens : p.Reopens) :
      Standing before position (some p)

/-- Octets that go on as a text lead to a standing from which the others go on as a text. -/
theorem decodeFrom_append {before octets more : List UInt8} {position : Nat} {pending : Option Pending}
    {text : List Char} (hs : Standing before position pending)
    (h : (decodeFrom position pending text (octets ++ more)).error = none) :
    ∃ position' pending' text', Standing (before ++ octets) position' pending' ∧
      decodeFrom position pending text octets = decodeFrom position' pending' text' [] ∧
      (decodeFrom position' pending' text' more).error = none := by
  induction octets generalizing before position pending text with
  | nil => exact ⟨position, pending, text, by rwa [List.append_nil], rfl, h⟩
  | cons b rest ih =>
    have hbefore : before ++ b :: rest = (before ++ [b]) ++ rest := by simp
    rw [hbefore]
    cases hs with
    | between =>
      rw [List.cons_append, decodeFrom] at h
      rw [decodeFrom]
      split at h
      · next hb =>
        rw [if_pos hb]
        have hnext : Standing (before ++ [b]) (before ++ [b]).length none := .between
        rw [List.length_append] at hnext
        exact ih hnext h
      · next hb =>
        rw [if_neg hb]
        split at h
        · next p hp =>
          have hnext : Standing (before ++ [b]) before.length (some p) := by
            refine .within ?_ ?_ (Pending.reopens_start hb hp)
            · rw [Pending.octets_start hp, List.drop_left, List.reverse_singleton]
            · rw [Pending.octets_start hp, List.length_append]
          exact ih hnext h
        · cases h
    | @within position p kept length reopens =>
      rw [List.cons_append, decodeFrom] at h
      rw [decodeFrom]
      dsimp only at h ⊢
      split at h
      · next hb =>
        rw [if_pos hb]
        split at h
        · next hm =>
          rw [if_pos hm]
          have hnext : Standing (before ++ [b]) (before ++ [b]).length none := .between
          rw [List.length_append, ← length] at hnext
          exact ih hnext h
        · next hm =>
          rw [if_neg hm]
          refine ih (.within ?_ ?_ (reopens.next hb hm)) h
          · rw [List.drop_append_of_le_length (by omega), kept, List.reverse_cons]
          · rw [List.length_append, ← length]
            rfl
      · cases h

/-- **Octets in front of others that they are a text with can be decoded**, and what they leave is a text with the
others. -/
theorem decodePart_append {octets more : List UInt8} (h : ∃ text, decode (octets ++ more) = .ok text) :
    ∃ text kept, decodePart octets = .ok (text, kept) ∧ ∃ text', decode (kept ++ more) = .ok text' := by
  have hstart : Standing [] 0 none := .between
  obtain ⟨position, pending, text, hs, hdecoded, hmore⟩ := decodeFrom_append hstart (decode_ok_iff.mp h)
  unfold decodePart
  change decodeFrom 0 none [] octets = _ at hdecoded
  rw [hdecoded]
  rw [List.nil_append] at hs
  cases hs with
  | between => exact ⟨text.reverse, [], rfl, decode_ok_iff.mpr (error_decodeFrom_congr.mp hmore)⟩
  | @within _ p kept length reopens =>
    refine ⟨text.reverse, octets.drop position, rfl, decode_ok_iff.mpr ?_⟩
    rw [kept, reopens]
    exact error_decodeFrom_congr.mp hmore

end Utf8

namespace Stream

/-- What is left of a file is a text. -/
def Decodes (s : Stream) : Prop := ∃ text, Utf8.decode (s.undecided ++ s.octets) = .ok text

theorem nextSize_pos (s : Stream) (wanted : Nat) : 0 < s.nextSize wanted :=
  Nat.lt_of_lt_of_le (by decide) (Nat.le_max_left chunkSize _)

theorem readChunk_of_decodes {s : Stream} (h : s.Decodes) (wanted : Nat) :
    ∃ s', s.readChunk wanted = .ok s' ∧ s'.Decodes := by
  unfold readChunk
  dsimp only
  split
  · next hend =>
    -- there are no more octets, so what was kept has to be a text
    have hoctets : s.octets = [] := by
      cases ho : s.octets with
      | nil => rfl
      | cons b rest =>
        have hsize := s.nextSize_pos wanted
        simp [ho, Nat.ne_of_gt hsize] at hend
    obtain ⟨text, htext⟩ := h
    rw [hoctets, List.append_nil] at htext
    rw [htext]
    refine ⟨_, rfl, ?_⟩
    show ∃ text, Utf8.decode ([] ++ s.octets.drop _) = .ok text
    rw [hoctets, List.drop_nil]
    exact ⟨[], rfl⟩
  · have hsplit : s.undecided ++ s.octets =
        (s.undecided ++ s.octets.take (s.nextSize wanted)) ++
          s.octets.drop (s.octets.take (s.nextSize wanted)).length := by
      rw [List.append_assoc]
      congr 1
      exact (List.prefix_iff_eq_append.mp (List.take_prefix _ _)).symm
    unfold Decodes at h
    rw [hsplit] at h
    obtain ⟨text, kept, hpart, hrest⟩ := Utf8.decodePart_append h
    rw [hpart]
    exact ⟨_, rfl, hrest⟩

theorem fillUp_of_decodes {s : Stream} (h : s.Decodes) (count fuel : Nat) :
    ∃ s', s.fillUp count fuel = .ok s' ∧ s'.Decodes := by
  induction fuel generalizing s with
  | zero => exact ⟨s, rfl, h⟩
  | succ fuel ih =>
    unfold fillUp
    split
    · exact ⟨s, rfl, h⟩
    · obtain ⟨s', hchunk, hs'⟩ := readChunk_of_decodes h (count - s.ready.length)
      rw [hchunk]
      dsimp only [bind, Except.bind]
      split
      · exact ⟨s', rfl, hs'⟩
      · exact ih hs'

/-- **Reading a file that is a text never fails**, whatever the size of the pieces. -/
theorem read_of_decodes {s : Stream} (h : s.Decodes) (count : Nat) :
    ∃ piece s', s.read count = .ok (piece, s') ∧ s'.Decodes := by
  obtain ⟨s', hfill, hs'⟩ := fillUp_of_decodes h count (s.octets.length + 3)
  unfold read
  rw [hfill]
  exact ⟨_, _, rfl, hs'⟩

end Stream

end InfluxKeeper.Text
