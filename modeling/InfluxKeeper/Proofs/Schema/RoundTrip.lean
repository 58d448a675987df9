import Mathlib.Data.List.Forall2
import InfluxKeeper.Proofs.Success
import InfluxKeeper.Proofs.Time.Real
import InfluxKeeper.Record.Metadata

/-!
# What a check makes of a value can be written and checked again

A check reads a value, leniently, and what it makes of it is written in one way only. `Lossless` says that the
written value is read as the same again. It holds of the checks that fields are made of, and it is carried from
the fields of a model to the model.

> `fieldOr_ofFields`: a field of a written model is read as what was written, or is left out and is its default.

What is written consists of texts, whole numbers, truth values, lists, and maps by texts (`Written`). Only a point
in time can be read and not be written again: if it is not one of a calendar. So everything is said of values
whose points in time are real (`Timely`). A value that is not written so can still stand in a document and be read
(`Stands`); what is told stands (`Told.stands`).
-/

namespace InfluxKeeper

open Schema

/-! ## Values -/

/-- A scalar that is no date or point in time that does not exist. -/
def Scalar.Timely : Scalar → Prop
  | .date d => d.Real
  | .time t => t.Real
  | _ => True

namespace Value

/-- A value whose dates and points in time are real. -/
inductive Timely : Value → Prop
  | scalar {s : Scalar} (timely : s.Timely) : Timely (.scalar s)
  | list {items : List Value} (timely : ∀ v ∈ items, Timely v) : Timely (.list items)
  | tuple {items : List Value} (timely : ∀ v ∈ items, Timely v) : Timely (.tuple items)
  | set {items : List Scalar} (timely : ∀ s ∈ items, s.Timely) : Timely (.set items)
  | map {entries : Entries} (timely : ∀ e ∈ entries, Timely e.2) : Timely (.map entries)

/-- A value made of texts, whole numbers, truth values, lists, and maps by different texts. -/
inductive Written : Value → Prop
  | text (s : String) : Written (.text s)
  | int (n : Int) : Written (.int n)
  | bool (b : Bool) : Written (.bool b)
  | list {items : List Value} (written : ∀ v ∈ items, Written v) : Written (.list items)
  | object {fields : List (String × Value)} (distinct : (fields.map (·.1)).Nodup)
      (written : ∀ f ∈ fields, Written f.2) : Written (.object fields)

/-- A value that is written, or is left out since it is null. -/
def Writable (v : Value) : Prop := v = .null ∨ v.Written

/-- A timely value that a document holds as it is. -/
structure Held (v : Value) : Prop where
  finite : v.finite = v
  timely : v.Timely

theorem Written.writable {v : Value} (h : v.Written) : v.Writable := Or.inr h

theorem Written.isNull {v : Value} (h : v.Written) : v.isNull = false := by
  cases h <;> rfl

theorem finiteItems_of {items : List Value} (h : ∀ v ∈ items, v.finite = v) :
    finiteItems items = items := by
  induction items with
  | nil => rfl
  | cons v rest ih =>
    rw [finiteItems, h v List.mem_cons_self, ih fun w hw => h w (List.mem_cons_of_mem _ hw)]

theorem finiteEntries_of {fields : List (String × Value)} (h : ∀ f ∈ fields, f.2.finite = f.2) :
    finiteEntries (fields.map fun f => (.text f.1, f.2)) = fields.map fun f => (.text f.1, f.2) := by
  induction fields with
  | nil => rfl
  | cons f rest ih =>
    rw [List.map_cons, finiteEntries, h f List.mem_cons_self,
      ih fun g hg => h g (List.mem_cons_of_mem _ hg)]

/-- What is written holds no number that is not finite. -/
theorem Written.finite {v : Value} (h : v.Written) : v.finite = v := by
  induction h with
  | text s => rw [Value.finite] <;> nofun
  | int n => rw [Value.finite] <;> nofun
  | bool b => rw [Value.finite] <;> nofun
  | list _ ih => rw [Value.finite, finiteItems_of ih]
  | object _ _ ih => rw [Value.object, Value.finite, finiteEntries_of ih]

end Value

namespace Value

theorem timely_scalar_iff {s : Scalar} : (Value.scalar s).Timely ↔ s.Timely :=
  ⟨fun h => by cases h; assumption, .scalar⟩

theorem timely_list_iff {items : List Value} : (Value.list items).Timely ↔ ∀ v ∈ items, v.Timely :=
  ⟨fun h => by cases h; assumption, .list⟩

theorem timely_map_iff {entries : Entries} :
    (Value.map entries).Timely ↔ ∀ e ∈ entries, e.2.Timely :=
  ⟨fun h => by cases h; assumption, .map⟩

theorem held_null : Held .null := ⟨by rw [Value.finite] <;> nofun, .scalar trivial⟩

/-- A map holds what its fields hold. -/
theorem held_object {fields : List (String × Value)} (h : ∀ f ∈ fields, f.2.Held) :
    (Value.object fields).Held := by
  refine ⟨?_, timely_map_iff.mpr fun e he => ?_⟩
  · rw [Value.object, Value.finite, finiteEntries_of fun f hf => (h f hf).finite]
  · obtain ⟨f, hf, rfl⟩ := List.mem_map.mp he
    exact (h f hf).timely

theorem Written.timely {v : Value} (h : v.Written) : v.Timely := by
  induction h with
  | text s => exact .scalar trivial
  | int n => exact .scalar trivial
  | bool b => exact .scalar trivial
  | list _ ih => exact .list ih
  | object _ _ ih =>
    refine timely_map_iff.mpr fun e he => ?_
    obtain ⟨f, hf, rfl⟩ := List.mem_map.mp he
    exact ih f hf

theorem Written.held {v : Value} (h : v.Written) : v.Held := ⟨h.finite, h.timely⟩

end Value

theorem Entries.timely_get? {entries : Entries} {key : String} {v : Value}
    (h : (Value.map entries).Timely) (hv : entries.get? key = some v) : v.Timely := by
  obtain ⟨e, he, rfl⟩ := Option.map_eq_some_iff.mp hv
  exact Value.timely_map_iff.mp h e (List.mem_of_find?_eq_some he)

/-- The items that a value counts as a list of are timely if it is. -/
theorem Schema.timely_items {v : Value} {items : List Value} (h : v.Timely)
    (hi : items? v = some items) : ∀ item ∈ items, item.Timely := by
  cases h with
  | scalar _ => cases hi
  | map _ => cases hi
  | list timely => cases hi; exact timely
  | tuple timely => cases hi; exact timely
  | set timely =>
    cases hi
    intro item hitem
    obtain ⟨s, hs, rfl⟩ := List.mem_map.mp hitem
    exact .scalar (timely s hs)

namespace Schema

variable {α β : Type}

/-! ## Checks -/

theorem valid_seq {f : Checked (α → β)} {a : Checked α} {g : α → β} {x : α} (hf : f = .valid g)
    (ha : a = .valid x) : (f <*> a) = .valid (g x) :=
  seq_valid_iff.mpr ⟨g, x, hf, ha, rfl⟩

theorem valid_map {f : α → β} {a : Checked α} {x : α} (ha : a = .valid x) :
    (f <$> a) = .valid (f x) :=
  map_valid_iff.mpr ⟨x, ha, rfl⟩

theorem model_valid_iff {title : String} {check : Entries → Checked α} {v : Value} {a : α} :
    model title check v = .valid a ↔ ∃ e, v = .map e ∧ check e = .valid a := by
  cases v with
  | map e => exact ⟨fun h => ⟨e, rfl, h⟩, fun ⟨_, he, h⟩ => by cases he; exact h⟩
  | _ => exact ⟨nofun, fun ⟨_, he, _⟩ => by cases he⟩

/-- Several checks are valid exactly if each is. -/
theorem all_valid_iff {checks : List (Checked α)} {as : List α} :
    Checked.all checks = .valid as ↔ List.Forall₂ (fun c a => c = .valid a) checks as := by
  induction checks generalizing as with
  | nil =>
    constructor
    · intro h; cases h; exact .nil
    · intro h; cases h; rfl
  | cons c rest ih =>
    unfold Checked.all
    rw [seq_valid_iff]
    constructor
    · rintro ⟨f, xs, hf, hrest, rfl⟩
      obtain ⟨x, hx, rfl⟩ := map_valid_iff.mp hf
      exact .cons hx (ih.mp hrest)
    · intro h
      cases h with
      | cons hx hrest => exact ⟨_, _, valid_map hx, ih.mpr hrest, rfl⟩

/-- A list is valid exactly if each of its items is. -/
theorem list_valid_iff {check : Value → Checked α} {v : Value} {as : List α} :
    list check v = .valid as ↔
      ∃ items, items? v = some items ∧ List.Forall₂ (fun item a => check item = .valid a) items as := by
  -- the places of the items show in the paths of their issues only
  have hitems (items : List Value) :
      Checked.all (items.zipIdx.map fun x => (check x.1).under (.index x.2)) = .valid as ↔
        List.Forall₂ (fun item a => check item = .valid a) items as := by
    rw [all_valid_iff, List.forall₂_map_left_iff]
    simp only [under_valid_iff]
    conv_rhs => rw [← List.zipIdx_map_fst 0 items, List.forall₂_map_left_iff]
  unfold list
  cases items? v with
  | none =>
    constructor
    · intro h; cases h
    · rintro ⟨_, h, -⟩; cases h
  | some items =>
    refine (hitems items).trans ⟨fun h => ⟨items, rfl, h⟩, ?_⟩
    rintro ⟨_, hi, h⟩
    cases hi
    exact h

theorem field_valid {e : Entries} {first second : String} {absent : Checked α}
    {check : Value → Checked α} {a : α} (he : (Value.map e).Timely)
    (h : field e first second absent check = .valid a) :
    absent = .valid a ∨ ∃ v, v.Timely ∧ check v = .valid a := by
  unfold field at h
  split at h
  · next hv => exact Or.inr ⟨_, Entries.timely_get? he hv, under_valid_iff.mp h⟩
  · next hv => exact Or.inr ⟨_, Entries.timely_get? he hv, under_valid_iff.mp h⟩
  · exact Or.inl h

/-! ## What a value tells -/

/-- A written value that a check reads as something. -/
structure Told (check : Value → Checked α) (v : Value) (a : α) : Prop where
  written : v.Written
  reads : check v = .valid a

/-- The value of a field: it is read as something, or is null where that is the default. -/
def ToldOr (default : α) (check : Value → Checked α) (v : Value) (a : α) : Prop :=
  (v = .null ∧ a = default) ∨ Told check v a

/-- A value that a document holds as it is, and that a check reads as something. -/
structure Stands (check : Value → Checked α) (v : Value) (a : α) : Prop where
  present : v.isNull = false
  held : v.Held
  reads : check v = .valid a

/-- The value of a field that stands as it is, or is null where that is the default. -/
def StandsOr (default : α) (check : Value → Checked α) (v : Value) (a : α) : Prop :=
  (v = .null ∧ a = default) ∨ Stands check v a

/-- What a check makes of a timely value is written as a value that is read as the same. -/
def Lossless (check check' : Value → Checked α) (write : α → Value) : Prop :=
  ∀ v a, v.Timely → check v = .valid a → Told check' (write a) a

variable {check check' : Value → Checked α} {write : α → Value} {v : Value} {a default : α}

theorem Told.writable (h : Told check v a) : v.Writable := h.written.writable

theorem Told.or (h : Told check v a) (default : α) : ToldOr default check v a := Or.inr h

theorem ToldOr.writable (h : ToldOr default check v a) : v.Writable := by
  rcases h with ⟨hnull, -⟩ | htold
  · exact Or.inl hnull
  · exact htold.writable

theorem Told.stands (h : Told check v a) : Stands check v a :=
  ⟨h.written.isNull, h.written.held, h.reads⟩

theorem StandsOr.held (h : StandsOr default check v a) : v.Held := by
  rcases h with ⟨rfl, -⟩ | hstands
  · exact Value.held_null
  · exact hstands.held

theorem ToldOr.stands (h : ToldOr default check v a) : StandsOr default check v a :=
  h.imp_right Told.stands

/-- What a field with a default is read as, is written losslessly if its values and its default are. -/
theorem Lossless.fieldOr (hl : Lossless check check' write) {e : Entries} {first second : String}
    (he : (Value.map e).Timely) (hd : Told check' (write default) default)
    (h : fieldOr e first second default check = .valid a) : Told check' (write a) a := by
  rcases field_valid he h with habsent | ⟨v, hv, hcheck⟩
  · cases habsent; exact hd
  · exact hl v a hv hcheck

theorem optional_of_not_null (h : v.isNull = false) : optional check v = some <$> check v := by
  unfold optional
  split
  · cases h
  · rfl

/-- What may be null is written as null if it is, and as what it tells if it is not. -/
theorem toldOr_optional {w : Option α → Value} (hnone : w none = .null) {o : Option α}
    (h : ∀ a, o = some a → Told check (w (some a)) a) : ToldOr none (optional check) (w o) o := by
  cases o with
  | none => exact Or.inl ⟨hnone, rfl⟩
  | some a =>
    have htold := h a rfl
    refine Or.inr ⟨htold.written, ?_⟩
    rw [optional_of_not_null htold.written.isNull]
    exact valid_map htold.reads

/-- What may be null is written as null if it is, and losslessly if it is not. -/
theorem Lossless.optional (hl : Lossless check check' write) {w : Option α → Value}
    (hnone : w none = .null) (hsome : ∀ a, w (some a) = write a) {o : Option α} (hv : v.Timely)
    (h : Schema.optional check v = .valid o) : ToldOr none (Schema.optional check') (w o) o := by
  refine toldOr_optional hnone fun a ha => ?_
  subst ha
  unfold Schema.optional at h
  split at h
  · cases h
  · obtain ⟨a', hread, heq⟩ := map_valid_iff.mp h
    cases heq
    rw [hsome]
    exact hl _ a hv hread

/-- A field that may be missing is written as null if it is, and losslessly if it is not. -/
theorem Lossless.toldOr (hl : Lossless check check' write) {w : Option α → Value}
    (hnone : w none = .null) (hsome : ∀ a, w (some a) = write a) {e : Entries} {first second : String}
    {o : Option α} (he : (Value.map e).Timely)
    (h : Schema.fieldOr e first second none (Schema.optional check) = .valid o) :
    ToldOr none (Schema.optional check') (w o) o := by
  rcases field_valid he h with habsent | ⟨v, hv, hcheck⟩
  · cases habsent; exact Or.inl ⟨hnone, rfl⟩
  · exact hl.optional hnone hsome hv hcheck

/-- A list is told by what is written of it, if each of its items is. -/
theorem told_list {as : List α} (h : ∀ a ∈ as, Told check (write a) a) :
    Told (Schema.list check) (.list (as.map write)) as := by
  refine ⟨.list fun w hw => ?_, list_valid_iff.mpr ⟨as.map write, rfl, ?_⟩⟩
  · obtain ⟨a, ha, rfl⟩ := List.mem_map.mp hw
    exact (h a ha).written
  · rw [List.forall₂_map_left_iff, List.forall₂_same]
    exact fun a ha => (h a ha).reads

/-- What a list is made of, is made of its items. -/
theorem mem_of_list_valid {as : List α} (hv : v.Timely) (h : Schema.list check v = .valid as) :
    ∀ a ∈ as, ∃ item, item.Timely ∧ check item = .valid a := by
  obtain ⟨items, hitems, hread⟩ := list_valid_iff.mp h
  intro a ha
  obtain ⟨i, hi, rfl⟩ := List.mem_iff_getElem.mp ha
  have hi' : i < items.length := by rw [hread.length_eq]; exact hi
  exact ⟨items[i], timely_items hv hitems _ (List.getElem_mem hi'), hread.get hi' hi⟩

theorem Lossless.list (hl : Lossless check check' write) :
    Lossless (list check) (list check') fun as => .list (as.map write) := by
  intro v as hv h
  refine told_list fun a ha => ?_
  obtain ⟨item, htimely, hread⟩ := mem_of_list_valid hv h a ha
  exact hl item a htimely hread

/-! ## Scalars -/

theorem told_text (s : String) : Told text (.text s) s := ⟨.text s, rfl⟩

theorem told_textValue (s : String) : Told textValue (.text s) (.text s) := ⟨.text s, rfl⟩

theorem lossless_textValue : Lossless textValue textValue fun v => v := by
  intro v a _ h
  obtain ⟨s, -, rfl⟩ := map_valid_iff.mp h
  exact told_textValue s

/-- A value is told by itself as a text exactly if it is one. -/
theorem told_textValue_iff {v : Value} : Told textValue v v ↔ ∃ t, v = .text t := by
  constructor
  · intro h
    obtain ⟨t, -, ht⟩ := map_valid_iff.mp h.reads
    exact ⟨t, ht⟩
  · rintro ⟨t, rfl⟩
    exact told_textValue t

theorem told_time {t : Timestamp} (h : t.Real) : Told time (.text t.recordText) t := by
  refine ⟨.text _, ?_⟩
  show ofTime (Time.ofText t.recordText.toList) = .valid t
  rw [ofText_recordText h]
  rfl

theorem ofTime_valid_iff {t : Timestamp} {outcome : Except Time.Fault Timestamp} :
    ofTime outcome = .valid t ↔ outcome = .ok t := by
  cases outcome with
  | error fault => exact ⟨nofun, nofun⟩
  | ok t' => exact ⟨fun h => by cases h; rfl, fun h => by cases h; rfl⟩

/-- A number that is read as a point in time is read as one that is not in year 0. -/
theorem ofNumber_valid {number : Except Time.Flaw Timestamp} {t : Timestamp}
    (h : ofNumber number = .valid t) : number = .ok t ∧ t.date.year ≠ 0 := by
  cases number with
  | error flaw => cases h
  | ok t' =>
    obtain ⟨rfl, hy⟩ := Time.rejectYearZero_ok_iff.mp (ofTime_valid_iff.mp h)
    exact ⟨rfl, hy⟩

/-- What a timely value is read as, as a point in time, is real. -/
theorem time_real {t : Timestamp} (hv : v.Timely) (h : time v = .valid t) : t.Real := by
  unfold time at h
  split at h
  · exact Time.ofText_real (ofTime_valid_iff.mp h)
  · exact Time.ofText_real (ofTime_valid_iff.mp h)
  · cases h
    exact Value.timely_scalar_iff.mp hv
  · cases h
    exact Timestamp.real_midnight (Value.timely_scalar_iff.mp hv)
  · split at h
    · obtain ⟨ht, hy⟩ := ofNumber_valid h
      exact Time.ofInt_real ht hy
    · dsimp only at h
      split at h
      · cases h
      · obtain ⟨ht, hy⟩ := ofNumber_valid h
        exact Time.ofBinary64_real ht hy
  · obtain ⟨ht, hy⟩ := ofNumber_valid h
    exact Time.ofBinary64_real ht hy
  · cases h

theorem lossless_time : Lossless time time fun t => .text t.recordText :=
  fun _ _ hv h => told_time (time_real hv h)

/-- A point in time that may be missing is written as null or losslessly. -/
theorem toldOr_time {e : Entries} {first second : String} {o : Option Timestamp}
    (he : (Value.map e).Timely) (h : fieldOr e first second none (optional time) = .valid o) :
    ToldOr none (optional time) (.ofTime? o) o :=
  lossless_time.toldOr rfl (fun _ => rfl) he h

/-- A text that may be null is written as it is. -/
theorem toldOr_optionalText {e : Entries} {first second : String} {w : Value}
    (he : (Value.map e).Timely) (h : Schema.fieldOr e first second .null optionalText = .valid w) :
    ToldOr .null optionalText w w := by
  rcases field_valid he h with habsent | ⟨v, -, hcheck⟩
  · cases habsent; exact Or.inl ⟨rfl, rfl⟩
  · unfold optionalText at hcheck
    split at hcheck
    · cases hcheck; exact Or.inl ⟨rfl, rfl⟩
    · obtain ⟨s, -, rfl⟩ := map_valid_iff.mp hcheck
      exact Or.inr ⟨.text s, rfl⟩

/-! ## Maps of texts -/

/-- One more entry by key: it takes the place of one with its key, or has a new key. -/
theorem nodup_byKey_step {acc : List (String × α)} (h : (acc.map (·.1)).Nodup) (e : String × α) :
    ((if acc.any (·.1 == e.1) then acc.map fun a => if a.1 == e.1 then e else a
      else acc ++ [e]).map (·.1)).Nodup := by
  split
  · have hkeys : (acc.map fun a => if a.1 == e.1 then e else a).map (·.1) = acc.map (·.1) := by
      rw [List.map_map]
      refine List.map_congr_left fun a _ => ?_
      by_cases hk : a.1 = e.1 <;> simp [hk]
    rw [hkeys]
    exact h
  · next hnew =>
    rw [List.map_append, List.nodup_append]
    refine ⟨h, List.pairwise_singleton _ _, ?_⟩
    rintro key hkey _ hsingle rfl
    obtain ⟨a, ha, rfl⟩ := List.mem_map.mp hkey
    rw [List.map_singleton, List.mem_singleton] at hsingle
    exact hnew (List.any_eq_true.mpr ⟨a, ha, by simpa using hsingle⟩)

/-- No key is repeated in entries by key. -/
theorem nodup_byKey (entries : List (String × α)) : ((byKey entries).map (·.1)).Nodup := by
  have hfold (acc : List (String × α)) (hacc : (acc.map (·.1)).Nodup) :
      ((entries.foldl (fun acc e =>
        if acc.any (·.1 == e.1) then acc.map fun a => if a.1 == e.1 then e else a else acc ++ [e])
        acc).map (·.1)).Nodup := by
    induction entries generalizing acc with
    | nil => exact hacc
    | cons e rest ih => exact ih _ (nodup_byKey_step hacc e)
  exact hfold [] List.nodup_nil

/-- Entries with different keys stay as they are. -/
theorem byKey_of_nodup {entries : List (String × α)} (h : (entries.map (·.1)).Nodup) :
    byKey entries = entries := by
  have hfold (acc : List (String × α)) (hd : ((acc ++ entries).map (·.1)).Nodup) :
      entries.foldl (fun acc e =>
        if acc.any (·.1 == e.1) then acc.map fun a => if a.1 == e.1 then e else a else acc ++ [e]) acc
        = acc ++ entries := by
    clear h
    induction entries generalizing acc with
    | nil => simp
    | cons e rest ih =>
      have hnew : ¬(acc.any (·.1 == e.1)) = true := by
        intro hany
        obtain ⟨a, ha, hkey⟩ := List.any_eq_true.mp hany
        rw [List.map_append, List.nodup_append] at hd
        exact hd.2.2 a.1 (List.mem_map_of_mem ha) e.1 (by simp) (by simpa using hkey)
      rw [List.foldl_cons, if_neg hnew, ih (acc ++ [e]) (by simpa using hd), List.append_assoc]
      rfl
  exact hfold [] h

theorem textMap_nodup {entries : List (String × String)} (h : textMap v = .valid entries) :
    (entries.map (·.1)).Nodup := by
  unfold textMap at h
  split at h
  · obtain ⟨read, -, rfl⟩ := map_valid_iff.mp h
    exact nodup_byKey read
  · cases h

theorem told_textMap {entries : List (String × String)} (h : (entries.map (·.1)).Nodup) :
    Told textMap (.textMap entries) entries := by
  refine ⟨.object (by rwa [List.map_map]) fun f hf => ?_, ?_⟩
  · obtain ⟨e, -, rfl⟩ := List.mem_map.mp hf
    exact .text e.2
  · show byKey <$> Checked.all _ = .valid entries
    have hread : Checked.all (((entries.map fun e => (e.1, Value.text e.2)).map
        fun e => (Scalar.text e.1, e.2)).map textEntry) = .valid entries := by
      rw [all_valid_iff, List.map_map, List.map_map, List.forall₂_map_left_iff, List.forall₂_same]
      exact fun e _ => rfl
    rw [hread, ← byKey_of_nodup h]
    exact valid_map (by rw [byKey_of_nodup h])

theorem told_textMap_nil : Told textMap (.textMap []) [] := told_textMap List.nodup_nil

theorem lossless_textMap : Lossless textMap textMap .textMap :=
  fun _ _ _ h => told_textMap (textMap_nodup h)

/-- Texts kept as values are written as they are. -/
theorem told_textValues {texts : List (String × String)} (h : (texts.map (·.1)).Nodup) :
    Told textValues (.object (texts.map fun e => (e.1, .text e.2))) (texts.map fun e => (e.1, .text e.2)) :=
  ⟨(told_textMap h).written, valid_map (told_textMap h).reads⟩

theorem lossless_textValues : Lossless textValues textValues .object := by
  intro v entries _ h
  obtain ⟨texts, hread, rfl⟩ := map_valid_iff.mp h
  exact told_textValues (textMap_nodup hread)

/-- Entries of which each is a text, as entries of texts. -/
theorem exists_texts {entries : List (String × Value)} (h : ∀ e ∈ entries, ∃ t, e.2 = .text t) :
    ∃ texts : List (String × String), entries = texts.map fun e => (e.1, .text e.2) := by
  induction entries with
  | nil => exact ⟨[], rfl⟩
  | cons e rest ih =>
    obtain ⟨⟨t, ht⟩, hrest⟩ := List.forall_mem_cons.mp h
    obtain ⟨texts, rfl⟩ := ih hrest
    obtain ⟨key, v⟩ := e
    dsimp only at ht
    subst ht
    exact ⟨(key, t) :: texts, rfl⟩

/-- A map of values is told by itself exactly if it holds texts under different keys. -/
theorem told_textValues_iff {entries : List (String × Value)} :
    Told textValues (.object entries) entries ↔
      (entries.map (·.1)).Nodup ∧ ∀ e ∈ entries, ∃ t, e.2 = .text t := by
  constructor
  · intro h
    obtain ⟨texts, hread, htexts⟩ := map_valid_iff.mp h.reads
    subst htexts
    refine ⟨?_, fun e he => ?_⟩
    · rw [List.map_map]
      exact textMap_nodup hread
    · obtain ⟨f, -, rfl⟩ := List.mem_map.mp he
      exact ⟨f.2, rfl⟩
  · rintro ⟨hdistinct, hall⟩
    obtain ⟨texts, rfl⟩ := exists_texts hall
    rw [List.map_map] at hdistinct
    exact told_textValues hdistinct

theorem told_textValues_nil : Told textValues (.object []) [] := ⟨.object List.nodup_nil (by simp), rfl⟩

end Schema

/-! ## Models -/

namespace Entries

/-- The entries of fields, without those that are null. -/
def ofFields (fields : List (String × Value)) : Entries :=
  ((fields.filter fun f => false || !f.2.isNull).map fun f => (f.1, f.2.finite)).map
    fun f => (.text f.1, f.2)

theorem ofFields_cons (name : String) (v : Value) (rest : List (String × Value)) :
    ofFields ((name, v) :: rest) =
      if v.isNull then ofFields rest else (.text name, v.finite) :: ofFields rest := by
  unfold ofFields
  cases hv : v.isNull <;> simp [hv]

theorem get?_cons (name key : String) (v : Value) (rest : Entries) :
    get? ((.text name, v) :: rest) key = if name = key then some v else get? rest key := by
  unfold get? find?
  by_cases h : name = key <;> simp [h]

theorem get?_ofFields_of_notMem {fields : List (String × Value)} {name : String}
    (h : name ∉ fields.map (·.1)) : get? (ofFields fields) name = none := by
  induction fields with
  | nil => rfl
  | cons f rest ih =>
    rw [List.map_cons, List.mem_cons, not_or] at h
    rw [ofFields_cons]
    split
    · exact ih h.2
    · rw [get?_cons, if_neg (Ne.symm h.1), ih h.2]

theorem get?_ofFields {fields : List (String × Value)} {name : String} {v : Value}
    (hd : (fields.map (·.1)).Nodup) (h : (name, v) ∈ fields) :
    get? (ofFields fields) name = if v.isNull then none else some v.finite := by
  induction fields with
  | nil => cases h
  | cons f rest ih =>
    rw [List.map_cons, List.nodup_cons] at hd
    rw [ofFields_cons]
    rcases List.mem_cons.mp h with rfl | hrest
    · split
      · exact get?_ofFields_of_notMem hd.1
      · rw [get?_cons, if_pos rfl]
    · have hne : f.1 ≠ name := fun he => hd.1 (he ▸ List.mem_map_of_mem hrest)
      split
      · exact ih hd.2 hrest
      · rw [get?_cons, if_neg hne, ih hd.2 hrest]

end Entries

namespace Schema

open Entries

variable {α : Type} {check : Value → Checked α} {v : Value} {a default : α}
  {fields : List (String × Value)} {first second : String}

/-- A field that stands in a model is read as what it says. -/
theorem Stands.field (h : Stands check v a) (hd : (fields.map (·.1)).Nodup) (hm : (first, v) ∈ fields)
    (absent : Checked α) : field (ofFields fields) first second absent check = .valid a := by
  unfold Schema.field
  rw [get?_ofFields hd hm, h.present, h.held.finite]
  exact under_valid_iff.mpr h.reads

/-- A field that may stand in a model is read as what it says, or is left out and is its default. -/
theorem StandsOr.fieldOr (h : StandsOr default check v a) (hd : (fields.map (·.1)).Nodup)
    (hm : (first, v) ∈ fields) (hs : second = first ∨ second ∉ fields.map (·.1)) :
    fieldOr (ofFields fields) first second default check = .valid a := by
  rcases h with ⟨rfl, rfl⟩ | hstands
  · have hfirst : get? (ofFields fields) first = none := get?_ofFields hd hm
    have hsecond : get? (ofFields fields) second = none := by
      rcases hs with rfl | hs
      · exact hfirst
      · exact get?_ofFields_of_notMem hs
    unfold Schema.fieldOr Schema.field
    rw [hfirst, hsecond]
    rfl
  · exact hstands.field hd hm _

/-- A field that is written is read as what it tells. -/
theorem field_ofFields (hd : (fields.map (·.1)).Nodup) (hm : (first, v) ∈ fields) (h : Told check v a)
    (absent : Checked α) : field (ofFields fields) first second absent check = .valid a :=
  h.stands.field hd hm absent

/-- A field of a written model is read as what it tells, or is left out and is its default. -/
theorem fieldOr_ofFields (hd : (fields.map (·.1)).Nodup) (hm : (first, v) ∈ fields)
    (hs : second = first ∨ second ∉ fields.map (·.1)) (h : ToldOr default check v a) :
    fieldOr (ofFields fields) first second default check = .valid a :=
  h.stands.fieldOr hd hm hs

/-- A model stands in a document that holds its fields. -/
theorem stands_model {title : String} {check : Entries → Checked α} (hd : (fields.map (·.1)).Nodup)
    (hf : ∀ f ∈ fields, f.2.Held) (h : (fields.map (·.1)).Nodup → check (ofFields fields) = .valid a) :
    Stands (model title check) (.model false fields) a := by
  refine ⟨rfl, Value.held_object fun f hmem => ?_, model_valid_iff.mpr ⟨ofFields fields, rfl, h hd⟩⟩
  obtain ⟨g, hg, rfl⟩ := List.mem_map.mp hmem
  have hheld : g.2.Held := hf g (List.mem_of_mem_filter hg)
  rw [hheld.finite]
  exact hheld

/-- A model whose fields can be written is written. -/
theorem written_model (hd : (fields.map (·.1)).Nodup) (hw : ∀ f ∈ fields, f.2.Writable) :
    (Value.model false fields).Written := by
  refine .object ?_ fun f hf => ?_
  · rw [List.map_map]
    exact hd.sublist (List.filter_sublist.map _)
  obtain ⟨g, hg, rfl⟩ := List.mem_map.mp hf
  obtain ⟨hmem, hnull⟩ := List.mem_filter.mp hg
  rcases hw g hmem with heq | hwritten
  · rw [heq] at hnull; cases hnull
  · show g.2.finite.Written
    rw [hwritten.finite]
    exact hwritten

/-- A model tells what its check makes of its fields. -/
theorem told_model {title : String} {check : Entries → Checked α} (hd : (fields.map (·.1)).Nodup)
    (hw : ∀ f ∈ fields, f.2.Writable)
    (h : (fields.map (·.1)).Nodup → check (ofFields fields) = .valid a) :
    Told (model title check) (.model false fields) a :=
  ⟨written_model hd hw, model_valid_iff.mpr ⟨ofFields fields, rfl, h hd⟩⟩

/-- A map of fields that are not null is the model of them. -/
theorem object_eq_model (hn : ∀ f ∈ fields, f.2.isNull = false) (hf : ∀ f ∈ fields, f.2.finite = f.2) :
    Value.object fields = .model false fields := by
  have hfilter : (fields.filter fun f => false || !f.2.isNull) = fields :=
    List.filter_eq_self.mpr fun f hmem => by rw [hn f hmem]; rfl
  have hfinite : (fields.map fun f => (f.1, f.2.finite)) = fields := by
    conv_rhs => rw [← List.map_id fields]
    exact List.map_congr_left fun f hmem => by rw [hf f hmem]; rfl
  unfold Value.model
  rw [hfilter, hfinite]

/-- A map stands in a document that holds its fields, if none is null. -/
theorem stands_object {title : String} {check : Entries → Checked α} (hd : (fields.map (·.1)).Nodup)
    (hn : ∀ f ∈ fields, f.2.isNull = false) (hf : ∀ f ∈ fields, f.2.Held)
    (h : (fields.map (·.1)).Nodup → check (ofFields fields) = .valid a) :
    Stands (model title check) (.object fields) a := by
  rw [object_eq_model hn fun f hmem => (hf f hmem).finite]
  exact stands_model hd hf h

/-- A model none of whose fields is null. -/
theorem told_object {title : String} {check : Entries → Checked α} (hd : (fields.map (·.1)).Nodup)
    (hw : ∀ f ∈ fields, f.2.Written)
    (h : (fields.map (·.1)).Nodup → check (ofFields fields) = .valid a) :
    Told (model title check) (.object fields) a := by
  rw [object_eq_model (fun f hmem => (hw f hmem).isNull) (fun f hmem => (hw f hmem).finite)]
  exact told_model hd (fun f hf => (hw f hf).writable) h

end Schema

end InfluxKeeper
