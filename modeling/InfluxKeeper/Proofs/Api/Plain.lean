import InfluxKeeper.Api.Wire
import InfluxKeeper.Proofs.Success
import InfluxKeeper.Schema.Check

/-!
# What answers are made of

A JSON text holds null, truth values, numbers, texts, lists, and maps whose keys are texts; it holds no
octets, no dates and none of the collections that only a manifest can spell. `Plain` says so of a value, and
`readValue_plain` carries it through the reader: one induction on the fuel covers values, items and members
together, with the entries read so far as the accumulator of the members.

> `outcome_plain`: whatever a call makes of an answer is plain.

So an entry of an answer that reads as a text *is* a text (`text_of_plain`), which is what lets later
statements speak of the id of an object instead of what its id was decoded to.
-/

namespace InfluxKeeper

open Api

/-- A scalar that a JSON text can hold. -/
def Scalar.Plain : Scalar → Prop
  | .null | .bool _ | .int _ | .float _ | .text _ => True
  | .bytes _ | .date _ | .time _ => False

/-- A value that a JSON text can hold. -/
inductive Value.Plain : Value → Prop
  | scalar {s : Scalar} (plain : s.Plain) : Plain (.scalar s)
  | list {items : List Value} (plain : ∀ v ∈ items, Plain v) : Plain (.list items)
  | map {entries : Entries} (keys : ∀ e ∈ entries, ∃ key, e.1 = .text key)
      (plain : ∀ e ∈ entries, Plain e.2) : Plain (.map entries)

/-- Entries that a JSON object can have. -/
def Entries.Plain (entries : Entries) : Prop := Value.Plain (.map entries)

theorem Value.plain_null : Value.Plain .null := .scalar trivial

theorem Value.plain_text (s : String) : Value.Plain (.text s) := .scalar trivial

theorem Value.plain_orElse {v other : Value} (hv : v.Plain) (ho : other.Plain) :
    (v.orElse other).Plain := by
  unfold orElse
  split
  · exact hv
  · exact ho

/-! ## Entries -/

theorem Entries.plain_nil : Entries.Plain [] := .map (by simp) (by simp)

theorem Entries.Plain.find? {entries : Entries} {key : Scalar} {v : Value} (h : entries.Plain)
    (hv : entries.find? key = some v) : v.Plain := by
  obtain ⟨e, he, rfl⟩ := Option.map_eq_some_iff.mp hv
  cases h with
  | map _ plain => exact plain e (List.mem_of_find?_eq_some he)

theorem Entries.Plain.get {entries : Entries} {key : String} (h : entries.Plain) :
    (entries.get key).Plain := by
  unfold Entries.get Entries.get?
  cases hf : entries.find? (.text key) with
  | none => exact Value.plain_null
  | some v => exact h.find? hf

theorem Entries.Plain.insert {entries : Entries} {key : String} {v : Value} (h : entries.Plain)
    (hv : v.Plain) : (entries.insert (.text key) v).Plain := by
  induction entries with
  | nil => exact .map (by simp [Entries.insert]) (by simpa [Entries.insert] using hv)
  | cons e rest ih =>
    cases h with
    | map keys plain =>
      have hrest : Entries.Plain rest :=
        .map (fun x hx => keys x (List.mem_cons_of_mem _ hx))
          (fun x hx => plain x (List.mem_cons_of_mem _ hx))
      unfold Entries.insert
      split
      · refine .map ?_ ?_ <;> intro x hx <;> rcases List.mem_cons.mp hx with rfl | hx'
        · exact keys e (List.mem_cons_self ..)
        · exact keys x (List.mem_cons_of_mem _ hx')
        · exact hv
        · exact plain x (List.mem_cons_of_mem _ hx')
      · cases ih hrest with
        | map keys' plain' =>
          refine .map ?_ ?_ <;> intro x hx <;> rcases List.mem_cons.mp hx with rfl | hx'
          · exact keys x (List.mem_cons_self ..)
          · exact keys' x hx'
          · exact plain x (List.mem_cons_self ..)
          · exact plain' x hx'

/-! ## The reader -/

namespace Json

theorem readNumber_plain {start s rest : List Char} {negative : Bool} {v : Value}
    (h : readNumber start negative s = .ok (v, rest)) : v.Plain := by
  unfold readNumber at h
  -- the sign's own choice stands inside the others and would be split first
  generalize (if negative = true then ['-'] else []) = sign at h
  dsimp only at h
  split at h
  · cases h
  · split at h
    · split at h
      · cases h
      · cases h; exact .scalar trivial
    · split at h
      · cases h; exact .scalar trivial
      · cases h

theorem words_plain : ∀ w ∈ words, w.2.Plain := by
  intro w hw
  simp only [words, List.mem_cons, List.not_mem_nil, or_false] at hw
  rcases hw with rfl | rfl | rfl | rfl | rfl | rfl <;> exact .scalar trivial

theorem readPlain_plain {s rest : List Char} {v : Value} (h : readPlain s = .ok (v, rest)) :
    v.Plain := by
  unfold readPlain at h
  split at h
  · next word value hw =>
    cases h
    exact words_plain _ (List.mem_of_find?_eq_some hw)
  · split at h <;> exact readNumber_plain h

/-- Everything read with some fuel is plain, if the entries read before are. -/
theorem readValue_plain (fuel : Nat) :
    (∀ {s v rest}, readValue fuel s = .ok (v, rest) → v.Plain) ∧
    (∀ {s items rest}, readItems fuel s = .ok (items, rest) → ∀ v ∈ items, v.Plain) ∧
    (∀ {entries s all rest}, Entries.Plain entries →
      readMembers fuel entries s = .ok (all, rest) → Entries.Plain all) := by
  -- the three readers call each other with one step of fuel less, so they go through one induction
  induction fuel with
  | zero =>
    refine ⟨?_, ?_, ?_⟩
    · intro s v rest h; simp [readValue] at h
    · intro s items rest h; simp [readItems] at h
    · intro entries s all rest _ h; simp [readMembers] at h
  | succ fuel ih =>
    obtain ⟨ihValue, ihItems, ihMembers⟩ := ih
    refine ⟨?_, ?_, ?_⟩
    · intro s v rest h
      unfold readValue at h
      split at h
      · obtain ⟨⟨t, rest'⟩, -, h⟩ := bind_ok_iff.mp h
        cases h
        exact Value.plain_text t
      · split at h
        · cases h; exact Entries.plain_nil
        · obtain ⟨⟨entries, rest'⟩, hm, h⟩ := bind_ok_iff.mp h
          cases h
          exact ihMembers Entries.plain_nil hm
      · split at h
        · cases h; exact .list (by simp)
        · obtain ⟨⟨items, rest'⟩, hi, h⟩ := bind_ok_iff.mp h
          cases h
          exact .list (ihItems hi)
      · exact readPlain_plain h
    · intro s items rest h
      unfold readItems at h
      obtain ⟨⟨item, rest'⟩, hv, h⟩ := bind_ok_iff.mp h
      dsimp only at h
      split at h
      · cases h
        intro v hm
        rw [List.mem_singleton.mp hm]
        exact ihValue hv
      · obtain ⟨⟨more, rest''⟩, hi, h⟩ := bind_ok_iff.mp h
        cases h
        intro v hm
        rcases List.mem_cons.mp hm with rfl | hm'
        · exact ihValue hv
        · exact ihItems hi v hm'
      · cases h
    · intro entries s all rest he h
      unfold readMembers at h
      split at h
      · obtain ⟨⟨key, rest'⟩, -, h⟩ := bind_ok_iff.mp h
        dsimp only at h
        split at h
        · obtain ⟨⟨value, rest''⟩, hv, h⟩ := bind_ok_iff.mp h
          dsimp only at h
          have hins : Entries.Plain (entries.insert (.text key) value) := he.insert (ihValue hv)
          split at h
          · cases h; exact hins
          · exact ihMembers hins h
          · cases h
        · cases h
      · cases h

theorem read_plain {s : String} {v : Value} (h : read s = .ok v) : v.Plain := by
  unfold read at h
  split at h
  · next value hr =>
    cases h
    unfold readAll at hr
    split at hr
    · cases hr
    · obtain ⟨⟨value', rest⟩, hv, hr⟩ := bind_ok_iff.mp hr
      dsimp only at hr
      split at hr
      · cases hr; exact (readValue_plain _).1 hv
      · cases hr
  · cases h
  · cases h

end Json

/-! ## Looks into an answer -/

namespace Value

theorem Plain.getEntry {v x : Value} {key : String} (h : v.Plain) (hx : v.getEntry key = .ok x) :
    x.Plain := by
  unfold Value.getEntry at hx
  split at hx
  · cases hx; exact Entries.Plain.get h
  · cases hx

theorem Plain.items {v : Value} {items : List Value} (h : v.Plain) (hi : v.items? = some items) :
    ∀ x ∈ items, x.Plain := by
  cases h with
  | list plain => cases hi; exact plain
  | map keys _ =>
    cases hi
    intro x hx
    obtain ⟨e, he, rfl⟩ := List.mem_map.mp hx
    obtain ⟨key, hkey⟩ := keys e he
    rw [hkey]
    exact plain_text key
  | @scalar s plain =>
    cases s with
    | text t =>
      cases hi
      intro x hx
      obtain ⟨c, _, rfl⟩ := List.mem_map.mp hx
      exact plain_text _
    | bytes octets => exact absurd plain id
    | _ => cases hi

theorem Plain.getFirst {v x : Value} (h : v.Plain) (hx : v.getFirst = .ok x) : x.Plain := by
  unfold Value.getFirst at hx
  split at hx
  · split at hx
    · next entries item hf => cases hx; exact Entries.Plain.find? h hf
    · cases hx
  · split at hx
    · next item rest hi => cases hx; exact h.items hi x (List.mem_cons_self ..)
    · cases hx

/-- What reads as a text is that text: only octets are decoded, and a plain value holds none. -/
theorem text_of_plain {v : Value} {s : String} (h : v.Plain) (hs : Schema.text v = .valid s) :
    v = .text s := by
  cases h with
  | list _ => cases hs
  | map _ _ => cases hs
  | @scalar c plain =>
    cases c with
    | text t => cases hs; rfl
    | bytes octets => exact absurd plain id
    | _ => cases hs

end Value

namespace Api

theorem decode_plain {a : Answer} {v : Value} (h : a.decode = .ok v) : v.Plain := by
  cases a with
  | response status text =>
    unfold Answer.decode at h
    dsimp only at h
    split at h
    · cases h
    · split at h
      · cases h; exact Value.plain_null
      · exact Json.read_plain (mapError_ok_iff.mp h)
  | _ => cases h

theorem pickFirst_plain {key kind : String} {name answer v : Value} (ha : answer.Plain)
    (h : pickFirst key kind name answer = .ok v) : v.Plain := by
  unfold pickFirst at h
  obtain ⟨found, hf, h⟩ := bind_ok_iff.mp h
  have hfound : (found.orElse (.list [])).Plain :=
    Value.plain_orElse ((Value.plain_orElse ha Entries.plain_nil).getEntry hf) (.list (by simp))
  dsimp only at h
  split at h
  · exact hfound.getFirst h
  · cases h

/-- **Whatever a call makes of an answer is plain.** -/
theorem outcome_plain {call : Call} {a : Answer} {v : Value} (h : call.outcome a = .ok v) :
    v.Plain := by
  unfold Call.outcome at h
  obtain ⟨answer, ha, h⟩ := bind_ok_iff.mp h
  have hp := decode_plain ha
  unfold Call.result at h
  split at h
  · exact pickFirst_plain hp h
  · exact pickFirst_plain hp h
  · cases h; exact Value.plain_orElse hp Entries.plain_nil
  all_goals cases h
  · exact Value.plain_null
  · exact Value.plain_null
  · exact Value.plain_null
  · exact hp

end Api

end InfluxKeeper
