import InfluxKeeper.Manifest.Documents
import InfluxKeeper.Proofs.Fleet.Dependents

/-!
# The records that documents hold

Documents are read in their order. A null document holds nothing, every other one has to hold a record of a
kind and name that is new, and the first that does not is at fault.

> `records_exact`: documents are read as the records that they hold, and are refused for the first document
> that is no record or repeats a kind and name. A directory of records that were read finds each of them
> under its kind and name, and nothing under any others.

What comes after a document makes no difference to how it is read, so a reading can be cut in front of it
(`recordsAfter_append`).
-/

namespace InfluxKeeper.Manifest

variable {now : Timestamp} {seen : List (Kind × String)} {document : Value} {docs rest : List Value}
  {r : Record} {rs : List Record} {fault : DocumentFault}

/-- The records that documents hold: one for each document that is not null, in their order, and no two of
one kind and name. -/
structure Holds (now : Timestamp) (docs : List Value) (rs : List Record) : Prop where
  read : List.Forall₂ (fun document r => record now document = .ok r) (docs.filter fun d => !d.isNull) rs
  distinct : (rs.map identity).Nodup

/-- Why a document is refused after some records: it is no record, or its record has the kind and name of one
of them. -/
inductive Refused (now : Timestamp) (rs : List Record) (document : Value) : DocumentFault → Prop
  | invalid {fault : DocumentFault} (full : document.isNull = false)
      (read : record now document = .error fault) : Refused now rs document fault
  | repeated {r earlier : Record} (read : record now document = .ok r) (mem : earlier ∈ rs)
      (same : identity earlier = identity r) : Refused now rs document (.duplicate r.kind.name r.name)

/-! ## Documents that are read -/

theorem holds_nil_iff : Holds now [] rs ↔ rs = [] := by
  constructor
  · rintro ⟨read, -⟩
    cases read
    rfl
  · rintro rfl
    exact ⟨.nil, List.nodup_nil⟩

theorem holds_cons_of_null (hnull : document.isNull = true) :
    Holds now (document :: rest) rs ↔ Holds now rest rs := by
  have hfilter : (document :: rest).filter (fun d => !d.isNull) = rest.filter fun d => !d.isNull := by
    simp [hnull]
  constructor
  · rintro ⟨read, distinct⟩
    exact ⟨hfilter ▸ read, distinct⟩
  · rintro ⟨read, distinct⟩
    exact ⟨hfilter ▸ read, distinct⟩

theorem holds_cons_iff (hfull : document.isNull = false) :
    Holds now (document :: rest) rs ↔
      ∃ r ts, rs = r :: ts ∧ record now document = .ok r ∧ (∀ s ∈ ts, identity s ≠ identity r) ∧
        Holds now rest ts := by
  have hfilter : (document :: rest).filter (fun d => !d.isNull)
      = document :: rest.filter fun d => !d.isNull := by
    simp [hfull]
  constructor
  · rintro ⟨read, distinct⟩
    rw [hfilter] at read
    obtain ⟨r, ts, hr, hts, rfl⟩ := List.forall₂_cons_left_iff.mp read
    obtain ⟨hnew, hrest⟩ := List.nodup_cons.mp distinct
    exact ⟨r, ts, rfl, hr, fun s hs he => hnew (he ▸ List.mem_map_of_mem hs), hts, hrest⟩
  · rintro ⟨r, ts, rfl, hr, hnew, read, distinct⟩
    refine ⟨?_, List.nodup_cons.mpr ⟨?_, distinct⟩⟩
    · rw [hfilter]
      exact .cons hr read
    · intro hmem
      obtain ⟨s, hs, he⟩ := List.mem_map.mp hmem
      exact hnew s hs he

theorem recordsAfter_cons_of_null (hnull : document.isNull = true) :
    recordsAfter now seen (document :: rest) = recordsAfter now seen rest := by
  rw [recordsAfter, if_pos hnull]

/-- A document whose record is new is read, and then those after it. -/
theorem recordsAfter_cons_of_new (hfull : document.isNull = false) (hr : record now document = .ok r)
    (hnew : identity r ∉ seen) :
    recordsAfter now seen (document :: rest)
      = (recordsAfter now (identity r :: seen) rest).map (r :: ·) := by
  rw [recordsAfter, if_neg (by simp [hfull]), hr]
  dsimp only
  rw [if_neg hnew]

/-- Documents are read as the records that they hold, if all of these are new. -/
theorem recordsAfter_ok_iff :
    recordsAfter now seen docs = .ok rs ↔ Holds now docs rs ∧ ∀ r ∈ rs, identity r ∉ seen := by
  induction docs generalizing seen rs with
  | nil =>
    rw [holds_nil_iff, recordsAfter]
    constructor
    · intro h
      cases h
      exact ⟨rfl, by simp⟩
    · rintro ⟨rfl, -⟩
      rfl
  | cons document rest ih =>
    cases hnull : document.isNull with
    | true => rw [recordsAfter_cons_of_null hnull, holds_cons_of_null hnull, ih]
    | false =>
      rw [holds_cons_iff hnull]
      constructor
      · intro h
        cases hr : record now document with
        | error fault => rw [recordsAfter, if_neg (by simp [hnull]), hr] at h; cases h
        | ok r =>
          by_cases hnew : identity r ∈ seen
          · rw [recordsAfter, if_neg (by simp [hnull]), hr] at h
            dsimp only at h
            rw [if_pos hnew] at h
            cases h
          · rw [recordsAfter_cons_of_new hnull hr hnew] at h
            obtain ⟨ts, hts, rfl⟩ := map_ok_iff.mp h
            obtain ⟨hholds, hfresh⟩ := ih.mp hts
            refine ⟨⟨r, ts, rfl, rfl, fun s hs he => hfresh s hs ?_, hholds⟩, fun s hs => ?_⟩
            · rw [he]
              exact List.mem_cons_self
            · rcases List.mem_cons.mp hs with rfl | hs
              · exact hnew
              · exact fun hseen => hfresh s hs (List.mem_cons_of_mem _ hseen)
      · rintro ⟨⟨r, ts, rfl, hr, hother, hholds⟩, hfresh⟩
        obtain ⟨hnew, hfresh⟩ := List.forall_mem_cons.mp hfresh
        rw [recordsAfter_cons_of_new hnull hr hnew]
        refine map_ok_iff.mpr ⟨ts, ih.mpr ⟨hholds, fun s hs hseen => ?_⟩, rfl⟩
        rcases List.mem_cons.mp hseen with he | hseen
        · exact hother s hs he
        · exact hfresh s hs hseen

theorem records_ok_iff : records now docs = .ok rs ↔ Holds now docs rs := by
  rw [records, recordsAfter_ok_iff]
  exact ⟨And.left, fun h => ⟨h, fun _ _ => List.not_mem_nil⟩⟩

/-! ## Documents that are refused -/

/-- Documents that were read leave the kinds and names of their records to those after them. -/
theorem recordsAfter_append (h : recordsAfter now seen docs = .ok rs) (rest : List Value) :
    recordsAfter now seen (docs ++ rest)
      = (recordsAfter now ((rs.map identity).reverse ++ seen) rest).map (rs ++ ·) := by
  induction docs generalizing seen rs with
  | nil =>
    cases h
    show recordsAfter now seen rest = (recordsAfter now seen rest).map id
    cases recordsAfter now seen rest <;> rfl
  | cons document docs ih =>
    cases hnull : document.isNull with
    | true =>
      rw [recordsAfter_cons_of_null hnull] at h
      rw [List.cons_append, recordsAfter_cons_of_null hnull, ih h]
    | false =>
      obtain ⟨hholds, hfresh⟩ := recordsAfter_ok_iff.mp h
      obtain ⟨r, ts, rfl, hr, -, -⟩ := (holds_cons_iff hnull).mp hholds
      have hnew : identity r ∉ seen := hfresh r List.mem_cons_self
      rw [recordsAfter_cons_of_new hnull hr hnew] at h
      obtain ⟨ts', hts, he⟩ := map_ok_iff.mp h
      obtain rfl : ts' = ts := by simpa using he
      rw [List.cons_append, recordsAfter_cons_of_new hnull hr hnew, ih hts, List.map_cons, List.reverse_cons,
        List.append_assoc, List.singleton_append]
      cases recordsAfter now ((ts'.map identity).reverse ++ identity r :: seen) rest <;> rfl

/-- Documents at fault hold records up to the one that is refused. -/
theorem exists_refused (h : recordsAfter now seen docs = .error fault) :
    ∃ before document after rs, docs = before ++ document :: after ∧
      recordsAfter now seen before = .ok rs ∧ document.isNull = false ∧
      (record now document = .error fault ∨ ∃ r, record now document = .ok r ∧
        identity r ∈ (rs.map identity).reverse ++ seen ∧ fault = .duplicate r.kind.name r.name) := by
  induction docs generalizing seen with
  | nil => cases h
  | cons document rest ih =>
    cases hnull : document.isNull with
    | true =>
      rw [recordsAfter_cons_of_null hnull] at h
      obtain ⟨before, refused, after, rs, rfl, hbefore, hrefused⟩ := ih h
      exact ⟨document :: before, refused, after, rs, rfl, (recordsAfter_cons_of_null hnull).trans hbefore,
        hrefused⟩
    | false =>
      cases hr : record now document with
      | error fault' =>
        rw [recordsAfter, if_neg (by simp [hnull]), hr] at h
        cases h
        exact ⟨[], document, rest, [], rfl, rfl, hnull, Or.inl hr⟩
      | ok r =>
        by_cases hnew : identity r ∈ seen
        · rw [recordsAfter, if_neg (by simp [hnull]), hr] at h
          dsimp only at h
          rw [if_pos hnew] at h
          cases h
          exact ⟨[], document, rest, [], rfl, rfl, hnull, Or.inr ⟨r, hr, hnew, rfl⟩⟩
        · rw [recordsAfter_cons_of_new hnull hr hnew] at h
          cases hrest : recordsAfter now (identity r :: seen) rest with
          | ok ts => rw [hrest] at h; cases h
          | error fault' =>
            rw [hrest] at h
            cases h
            obtain ⟨before, refused, after, rs, rfl, hbefore, hrefused⟩ := ih hrest
            refine ⟨document :: before, refused, after, r :: rs, rfl, ?_, ?_⟩
            · rw [recordsAfter_cons_of_new hnull hr hnew, hbefore]
              rfl
            · rwa [List.map_cons, List.reverse_cons, List.append_assoc, List.singleton_append]

theorem records_error_iff :
    records now docs = .error fault ↔ ∃ before document after rs, docs = before ++ document :: after ∧
      Holds now before rs ∧ Refused now rs document fault := by
  constructor
  · intro h
    obtain ⟨before, document, after, rs, hdocs, hbefore, hfull, hrefused⟩ := exists_refused h
    refine ⟨before, document, after, rs, hdocs, records_ok_iff.mp hbefore, ?_⟩
    rcases hrefused with hr | ⟨r, hr, hmem, rfl⟩
    · exact .invalid hfull hr
    · rw [List.append_nil, List.mem_reverse] at hmem
      obtain ⟨earlier, hearlier, hsame⟩ := List.mem_map.mp hmem
      exact .repeated hr hearlier hsame
  · rintro ⟨before, document, after, rs, rfl, hbefore, hrefused⟩
    rw [records, recordsAfter_append (records_ok_iff.mpr hbefore), List.append_nil]
    cases hrefused with
    | invalid full read =>
      rw [recordsAfter, if_neg (by simp [full]), read]
      rfl
    | @repeated r earlier read mem same =>
      have hfull : document.isNull = false := by
        cases hnull : document.isNull with
        | false => rfl
        | true => rw [Value.eq_null_of_isNull hnull] at read; cases read
      have hseen : identity r ∈ (rs.map identity).reverse :=
        List.mem_reverse.mpr (same ▸ List.mem_map_of_mem mem)
      rw [recordsAfter, if_neg (by simp [hfull]), read]
      dsimp only
      rw [if_pos hseen]
      rfl

/-! ## A directory of what was read -/

/-- A directory of different records finds a record exactly under its own kind and name. -/
theorem find?_ofRecords_iff (distinct : (rs.map identity).Nodup) {kind name : String} :
    (Directory.ofRecords rs).find? kind name = some r ↔ r ∈ rs ∧ r.kind.name = kind ∧ r.name = name := by
  rw [Directory.ofRecords_of_nodup distinct]
  constructor
  · intro h
    have hkey : r.kind.name = kind ∧ r.name = name := by simpa using List.find?_some h
    exact ⟨List.mem_of_find?_eq_some h, hkey⟩
  · rintro ⟨hr, rfl, rfl⟩
    exact Directory.find?_of_mem distinct hr

/-- **Documents are read exactly, and name their records without doubt.** They are read as records exactly if
every document that is not null is one and all have different kinds and names, and then as these in the order of
the documents. They are refused exactly with the fault of the first document that is no record or has the kind
and name of a record before it. A directory of the records that were read finds under a kind and name the record
that has them, and nothing if none has. -/
theorem records_exact (now : Timestamp) (docs : List Value) :
    (∀ rs, records now docs = .ok rs ↔ Holds now docs rs) ∧
    (∀ fault, records now docs = .error fault ↔
      ∃ before document after rs, docs = before ++ document :: after ∧ Holds now before rs ∧
        Refused now rs document fault) ∧
    ∀ rs, records now docs = .ok rs → ∀ kind name r,
      (Directory.ofRecords rs).find? kind name = some r ↔ r ∈ rs ∧ r.kind.name = kind ∧ r.name = name :=
  ⟨fun _ => records_ok_iff, fun _ => records_error_iff,
    fun _ h _ _ _ => find?_ofRecords_iff (records_ok_iff.mp h).distinct⟩

/-- A document of a record with nothing but a kind and a name. -/
def plainDocument (kind name : String) : Value :=
  .object [("kind", .text kind), ("metadata", .object [("name", .text name)])]

/-- An organization and a bucket of one name are two records. A second bucket of that name is refused, whatever
comes after it. -/
theorem records_exact_namesakes :
    let docs := [plainDocument "Organization" "acme", .null, plainDocument "Bucket" "acme"]
    let organization := Record.ofName "acme" (.organization ⟨none⟩ .empty)
    let bucket := Record.ofName "acme" (.bucket .empty .empty)
    let now := Timestamp.midnight ⟨2024, 5, 6⟩
    records now docs = .ok [organization, bucket] ∧
      (Directory.ofRecords [organization, bucket]).find? "Bucket" "acme" = some bucket ∧
      (Directory.ofRecords [organization, bucket]).find? "Bucket" "logs" = none ∧
      records now (docs ++ [plainDocument "Bucket" "acme", .text "no record"])
        = .error (.duplicate "Bucket" "acme") := by
  intro docs organization bucket now
  have horganization : record now (plainDocument "Organization" "acme") = .ok organization :=
    ok_of_toOption (by decide +kernel)
  have hbucket : record now (plainDocument "Bucket" "acme") = .ok bucket := ok_of_toOption (by decide +kernel)
  have hholds : Holds now docs [organization, bucket] :=
    ⟨.cons horganization (.cons hbucket .nil), by decide⟩
  obtain ⟨hread, -, hfind⟩ := records_exact now docs
  obtain ⟨-, hrefused, -⟩ := records_exact now (docs ++ [plainDocument "Bucket" "acme", .text "no record"])
  have hok := (hread _).mpr hholds
  refine ⟨hok, (hfind _ hok _ _ _).mpr ⟨by simp, rfl, rfl⟩, ?_, ?_⟩
  · refine Option.eq_none_iff_forall_ne_some.mpr fun r h => ?_
    obtain ⟨hmem, -, hname⟩ := (hfind _ hok _ _ _).mp h
    -- both records have the same other name
    have hacme : r.name = "acme" := by
      rcases List.mem_pair.mp hmem with rfl | rfl
      · rfl
      · rfl
    exact absurd (hacme.symm.trans hname) (by decide)
  · exact (hrefused _).mpr ⟨docs, _, _, _, rfl, hholds, .repeated hbucket (by simp) rfl⟩

end InfluxKeeper.Manifest
