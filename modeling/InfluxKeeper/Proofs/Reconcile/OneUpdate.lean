import InfluxKeeper.Proofs.Bucket.Rules
import InfluxKeeper.Proofs.Reconcile.Absorb

/-!
# One update is enough

An update sends the fields of a resource that can be changed. If the object that was found takes these
fields, the next look finds it as the record wants it and has nothing to fill.

> `observe_after_update`: whatever an update sent, written over the object found, is up to date for the
> record that the reconcile left.

Four pieces have to agree: what is filled from the object (`lateInitialize`), what is sent (`Record.patch`),
what is read back, and what is compared (`upToDate`). They agree kind by kind: `Organization.settled`,
`Bucket.settled` and `Mapping.settled` each say that the written object is read as before, fills nothing and
is as wanted. A field that is left open is not sent, but then it was open in the object too, because it would
have been filled otherwise (`isNull_of_fill`).
-/

namespace InfluxKeeper

open Api

/-! ## Fields written over an object -/

namespace Entries

/-- Entries with fields written over them. -/
def overwrite (entries : Entries) (fields : List (String × Value)) : Entries :=
  fields.foldl (fun acc f => acc.insert (.text f.1) f.2) entries

theorem get?_overwrite_of_notMem {fields : List (String × Value)} {key : String}
    (h : key ∉ fields.map (·.1)) (entries : Entries) :
    (entries.overwrite fields).get? key = entries.get? key := by
  induction fields generalizing entries with
  | nil => rfl
  | cons f rest ih =>
    rw [List.map_cons, List.mem_cons, not_or] at h
    show ((entries.insert (.text f.1) f.2).overwrite rest).get? key = _
    rw [ih h.2, get?_insert_of_ne (Ne.symm h.1)]

theorem get?_overwrite_of_mem {fields : List (String × Value)} {key : String} {value : Value}
    (distinct : (fields.map (·.1)).Nodup) (h : (key, value) ∈ fields) (entries : Entries) :
    (entries.overwrite fields).get? key = some value := by
  induction fields generalizing entries with
  | nil => cases h
  | cons f rest ih =>
    rw [List.map_cons, List.nodup_cons] at distinct
    show ((entries.insert (.text f.1) f.2).overwrite rest).get? key = _
    rcases List.mem_cons.mp h with rfl | hr
    · rw [get?_overwrite_of_notMem distinct.1, get?_insert_self]
    · exact ih distinct.2 hr _

theorem get_overwrite_of_notMem {fields : List (String × Value)} {key : String}
    (h : key ∉ fields.map (·.1)) (entries : Entries) :
    (entries.overwrite fields).get key = entries.get key := by
  unfold get
  rw [get?_overwrite_of_notMem h]

theorem get_overwrite_of_mem {fields : List (String × Value)} {key : String} {value : Value}
    (distinct : (fields.map (·.1)).Nodup) (h : (key, value) ∈ fields) (entries : Entries) :
    (entries.overwrite fields).get key = value := by
  unfold get
  rw [get?_overwrite_of_mem distinct h]
  rfl

end Entries

/-! ## Fields that were filled -/

/-- A field that was filled from an object is in the object over which it is written, whether it is sent or
left out for being open. -/
theorem Entries.get_overwrite_of_fill {fields : List (String × Value)} {entries : Entries}
    {key : String} {desired value : Value} (hv : value = (fill desired (entries.get key)).value)
    (distinct : (fields.map (·.1)).Nodup) (sent : value.isNull = false → (key, value) ∈ fields)
    (left : value.isNull = true → key ∉ fields.map (·.1)) :
    (entries.overwrite fields).get key = value := by
  by_cases hn : value.isNull = true
  · have ho : (entries.get key).isNull = true := isNull_of_fill (hv ▸ hn)
    rw [get_overwrite_of_notMem (left hn), Value.eq_null_of_isNull hn, Value.eq_null_of_isNull ho]
  · exact get_overwrite_of_mem distinct (sent (Bool.not_eq_true _ ▸ hn)) entries

/-- A text or null, as descriptions are declared. -/
def Value.IsOptionalText (v : Value) : Prop := v = .null ∨ ∃ s, v = .text s

/-- A description is as wanted beside itself. -/
theorem Value.IsOptionalText.same_self {v : Value} (h : v.IsOptionalText) :
    (v.orElse (.text "")).same (v.orElse (.text "")) = true := by
  rcases h with rfl | ⟨s, rfl⟩
  · decide
  · rw [orElse_text, same_text_text, decide_eq_true rfl]

theorem isOptionalText_fill {desired observed : Value} (hd : desired.IsOptionalText)
    (ho : observed.IsOptionalText) : (fill desired observed).value.IsOptionalText := by
  unfold fill
  split
  · exact ho
  · exact hd

/-! ## Organizations -/

namespace Organization

theorem keys_patch (name : Value) (p : Parameters) :
    (patch name p).map (·.1) = ["name", "description"] := rfl

/-- An organization that took an update is read as before, and is as wanted. -/
theorem settled (name : Value) (p : Parameters) (entries : Entries) :
    Observation.ofAnswer (.map (entries.overwrite (patch name p)))
        = Observation.ofAnswer (.map entries) ∧
      upToDate p (.map (entries.overwrite (patch name p))) = .ok true := by
  have hget (key : String) (h : key ∉ ["name", "description"]) :
      (entries.overwrite (patch name p)).get key = entries.get key :=
    Entries.get_overwrite_of_notMem (by rwa [keys_patch]) entries
  have hdescription : (entries.overwrite (patch name p)).get "description"
      = .text (p.description.getD "") :=
    Entries.get_overwrite_of_mem (by simp [keys_patch]) (by simp [patch]) entries
  constructor
  · simp only [Observation.ofAnswer, Entries.getOr, hget "links" (by simp), hget "id" (by simp),
      hget "status" (by simp), hget "createdAt" (by simp), hget "updatedAt" (by simp)]
  · refine bind_ok_iff.mpr ⟨_, rfl, ?_⟩
    rw [hdescription, Value.orElse_text, Value.same_text_text, decide_eq_true rfl]
    rfl

end Organization

/-! ## Buckets -/

namespace Bucket

theorem keys_patch_subset (name : Value) (p : Parameters) :
    (patch name p).map (·.1) ⊆ ["name", "retentionRules", "description"] := by
  unfold patch
  split <;> simp

theorem keys_patch_nodup (name : Value) (p : Parameters) : ((patch name p).map (·.1)).Nodup := by
  unfold patch
  split <;> simp

/-- A bucket that took an update is read as before, fills nothing, and is as wanted. -/
theorem settled {p p' : Parameters} {entries : Entries} {changed : Bool} (name : Value)
    (h : lateInitialize p (.map entries) = (.ok changed, p'))
    (hwanted : p.description.IsOptionalText)
    (hobserved : (entries.get "description").IsOptionalText) :
    Observation.ofAnswer (.map (entries.overwrite (patch name p')))
        = Observation.ofAnswer (.map entries) ∧
      lateInitialize p' (.map (entries.overwrite (patch name p'))) = (.ok false, p') ∧
      upToDate p' (.map (entries.overwrite (patch name p'))) = .ok true := by
  obtain ⟨_, observed, heq, -, hp'⟩ := lateInitialize_ok h
  cases heq
  -- what the update does not send is still as it was found
  have hget (key : String) (h : key ∉ ["name", "retentionRules", "description"]) :
      (entries.overwrite (patch name p')).get key = entries.get key :=
    Entries.get_overwrite_of_notMem (fun hk => h (keys_patch_subset name p' hk)) entries
  -- what it always sends is read back as it was sent
  have hrules : observedRules (.map (entries.overwrite (patch name p'))) = .ok p'.retentionRules :=
    observedRules_toValue (Entries.get?_overwrite_of_mem (keys_patch_nodup name p')
      (by simp [patch]) entries)
  -- a description left open is not sent, but then the object has none either
  have hdescription : (entries.overwrite (patch name p')).get "description" = p'.description := by
    refine Entries.get_overwrite_of_fill (congrArg (·.description) hp') (keys_patch_nodup name p') ?_ ?_
    · intro hn; simp [patch, hn]
    · intro hn; simp [patch, hn]
  have htyped : p'.description.IsOptionalText := by
    rw [hp']
    exact isOptionalText_fill hwanted hobserved
  -- the other two are never sent; they were filled from the object already
  have hrp : fill p'.rp (entries.get "rp") = ⟨p'.rp, false⟩ := by
    rw [hp']
    exact fill_again _ _
  have htype : fillText p'.schemaType (entries.get "schemaType") = ⟨p'.schemaType, false⟩ := by
    rw [hp']
    exact fillText_again _ _
  refine ⟨?_, ?_, ?_⟩
  · simp only [Observation.ofAnswer, Entries.getOr, hget "labels" (by simp), hget "links" (by simp),
      hget "id" (by simp), hget "createdAt" (by simp), hget "updatedAt" (by simp),
      hget "type" (by simp)]
  · simp only [lateInitialize, hrules, hdescription, hget "rp" (by simp), hget "schemaType" (by simp),
      fill_self, hrp, htype, fillRules_self, Bool.or_false]
  · refine bind_ok_iff.mpr ⟨_, hrules, ?_⟩
    -- the rules agree, so it comes down to the descriptions
    rw [if_pos (sameRules_self _)]
    refine bind_ok_iff.mpr ⟨_, rfl, ?_⟩
    rw [hdescription, htyped.same_self]
    rfl

end Bucket

/-! ## Mappings -/

namespace Mapping

theorem keys_updateBody_subset (p : Parameters) :
    (updateBody p).map (·.1) ⊆ ["retention_policy", "default"] := by
  unfold updateBody defaultPart
  split <;> simp

theorem keys_updateBody_nodup (p : Parameters) : ((updateBody p).map (·.1)).Nodup := by
  unfold updateBody defaultPart
  split <;> simp

/-- A mapping that took an update is read as before, fills nothing, and is as wanted. -/
theorem settled {p p' : Parameters} {entries : Entries} {changed : Bool}
    (h : lateInitialize p (.map entries) = (.ok changed, p')) :
    observedLink (.map (entries.overwrite (updateBody p'))) = observedLink (.map entries) ∧
      lateInitialize p' (.map (entries.overwrite (updateBody p'))) = (.ok false, p') ∧
      upToDate p' (.map (entries.overwrite (updateBody p'))) = .ok true := by
  have hp' : p' = { p with isDefault := (fill p.isDefault (entries.get "default")).value } := by
    cases h
    rfl
  have hlinks : (entries.overwrite (updateBody p')).get "links" = entries.get "links" :=
    Entries.get_overwrite_of_notMem
      (fun hk => by simpa using keys_updateBody_subset p' hk) entries
  have hpolicy : (entries.overwrite (updateBody p')).get "retention_policy"
      = .text p'.retentionPolicy :=
    Entries.get_overwrite_of_mem (keys_updateBody_nodup p') (by simp [updateBody]) entries
  have hdefault : (entries.overwrite (updateBody p')).get "default" = p'.isDefault := by
    refine Entries.get_overwrite_of_fill (congrArg (·.isDefault) hp') (keys_updateBody_nodup p') ?_ ?_
    · intro hn; simp [updateBody, defaultPart, hn]
    · intro hn; simp [updateBody, defaultPart, hn]
  refine ⟨?_, ?_, ?_⟩
  · simp only [observedLink, Value.getEntry, hlinks]
  · simp only [lateInitialize, Value.getEntry, hdefault, fill_self]
  · refine bind_ok_iff.mpr ⟨_, rfl, ?_⟩
    rw [hdefault, if_pos (beq_self_eq_true _)]
    refine bind_ok_iff.mpr ⟨_, rfl, ?_⟩
    rw [hpolicy, Value.orElse_text, Value.same_text_text, decide_eq_true rfl]
    rfl

end Mapping

/-! ## Records -/

namespace Record

/-- The fields that an update of a record sends. -/
def patch (r : Record) : List (String × Value) :=
  match r.resource with
  | .organization p _ => Organization.patch r.externalName p
  | .bucket p _ => Bucket.patch r.externalName p
  | .mapping p _ => Mapping.updateBody p

theorem body_update (c : Client) (r : Record) :
    (r.mutationRequest c .update).body = .object r.patch := by
  unfold mutationRequest patch
  cases r.resource <;> rfl

/-- The description of a bucket and of its record are texts or null, as both declare them. -/
def DescriptionTyped (entries : Entries) (r : Record) : Prop :=
  match r.resource with
  | .bucket p _ => p.description.IsOptionalText ∧ (entries.get "description").IsOptionalText
  | _ => True

theorem descriptionTyped_nameByDefault {entries : Entries} {r : Record} :
    r.nameByDefault.DescriptionTyped entries ↔ r.DescriptionTyped entries := by
  unfold DescriptionTyped
  rw [resource_nameByDefault]

theorem descriptionTyped_resolve {entries : Entries} {r : Record} (n : Resolver) :
    (r.resolve n).DescriptionTyped entries ↔ r.DescriptionTyped entries := by
  unfold resolve DescriptionTyped
  cases hr : r.resource <;> simp [hr, Bucket.Parameters.resolve]

/-- What is seen of an object does not depend on references. -/
theorem seenIn_resolve (n : Resolver) (object : Value) (r : Record) :
    (r.resolve n).resource.seenIn object = r.resource.seenIn object := by
  unfold resolve Resource.seenIn
  cases hr : r.resource with
  | organization p o => rw [hr]
  | bucket p o =>
    unfold Bucket.lateInitialize Bucket.Parameters.resolve
    cases object with
    | map entries => dsimp only; cases Bucket.observedRules (.map entries) <;> rfl
    | _ => rfl
  | mapping p o =>
    unfold Mapping.lateInitialize Mapping.Parameters.resolve
    cases object.getEntry "default" <;> rfl

/-- A record that has absorbed an object sees it as wanted, and fills nothing, once the fields of its
update are written over it. -/
theorem absorb_patched {r r' : Record} {entries : Entries} {seen : Seen} {now : Timestamp}
    (h : r.absorb now (.map entries) = (.ok seen, r')) (typed : r.DescriptionTyped entries) :
    r'.resource.seenIn (.map (entries.overwrite r'.patch)) = .ok ⟨true, true, false⟩ := by
  have hseen : r.resource.seenIn (.map entries) = .ok seen := by rw [← seen_absorb now, h]
  have hres : r'.resource = r.resource.absorb (.map entries) := by rw [← resource_absorb now, h]
  unfold DescriptionTyped at typed
  -- what is read, filled and compared is told kind by kind
  unfold patch
  cases hr : r.resource with
  | organization p o =>
    rw [hr] at hseen hres
    obtain ⟨o', ho, -⟩ := bind_ok_iff.mp hseen
    unfold Resource.absorb at hres
    rw [ho] at hres
    obtain ⟨hread, hup⟩ := Organization.settled r'.externalName p entries
    rw [hres]
    exact bind_ok_iff.mpr ⟨o', hread.trans ho, bind_ok_iff.mpr ⟨true, hup, rfl⟩⟩
  | bucket p o =>
    rw [hr] at hseen hres typed
    obtain ⟨o', ho, hseen⟩ := bind_ok_iff.mp hseen
    obtain ⟨changed, hchanged, -⟩ := bind_ok_iff.mp hseen
    unfold Resource.absorb at hres
    rw [ho] at hres
    obtain ⟨hread, hfill, hup⟩ := Bucket.settled r'.externalName
      (Prod.fst_eq_iff.mp hchanged) typed.1 typed.2
    rw [hres]
    refine bind_ok_iff.mpr ⟨o', hread.trans ho, bind_ok_iff.mpr ⟨false, ?_, ?_⟩⟩
    · exact congrArg Prod.fst hfill
    · rw [show Bucket.lateInitialize _ _ = _ from hfill]
      exact bind_ok_iff.mpr ⟨true, hup, rfl⟩
  | mapping p o =>
    rw [hr] at hseen hres
    obtain ⟨link, hlink, hseen⟩ := bind_ok_iff.mp hseen
    obtain ⟨changed, hchanged, -⟩ := bind_ok_iff.mp hseen
    unfold Resource.absorb at hres
    rw [hlink] at hres
    obtain ⟨hread, hfill, hup⟩ := Mapping.settled (Prod.fst_eq_iff.mp hchanged)
    rw [hres]
    refine bind_ok_iff.mpr ⟨link, hread.trans hlink, bind_ok_iff.mpr ⟨false, ?_, ?_⟩⟩
    · exact congrArg Prod.fst hfill
    · rw [show Mapping.lateInitialize _ _ = _ from hfill]
      exact bind_ok_iff.mpr ⟨true, hup, rfl⟩

end Record

namespace Work

variable {s : Setup} {resolver : Option Resolver}

theorem descriptionTyped_prepare {entries : Entries} {w : Work} :
    (w.prepare resolver).record.DescriptionTyped entries ↔ w.record.DescriptionTyped entries := by
  rw [record_prepare]
  cases resolver with
  | none => exact Record.descriptionTyped_nameByDefault
  | some n => exact (Record.descriptionTyped_resolve n).trans Record.descriptionTyped_nameByDefault

/-- What is seen of an object does not depend on the preparation. -/
theorem seenIn_prepare (object : Value) (w : Work) :
    (w.prepare resolver).record.resource.seenIn object = w.record.resource.seenIn object := by
  rw [record_prepare]
  cases resolver with
  | none => exact congrArg _ w.record.resource_nameByDefault
  | some n =>
    refine (Record.seenIn_resolve n object w.record.nameByDefault).trans ?_
    exact congrArg _ w.record.resource_nameByDefault

/-- An observation of a record that is handled looks at the prepared record. -/
theorem observe_ok {w w' : Work} {seen : Seen} (h : w.observe s resolver = (.ok seen, w')) :
    w.record.kind ∈ s.kinds ∧ (w.prepare resolver).look s.client = (.ok seen, w') := by
  unfold observe ifHandled at h
  split at h
  · cases h
  · next hk => exact ⟨Decidable.not_not.mp hk, h⟩

/-- A look that finds an object tells what is seen of it. -/
theorem seen_observe {w : Work} {object : Value} (hk : w.record.kind ∈ s.kinds)
    (hf : (w.prepare resolver).finding s.client = .ok (some object)) :
    (w.observe s resolver).1 = (w.record.resource.seenIn object).mapError .escaped := by
  unfold observe ifHandled
  rw [if_neg (not_not_intro hk)]
  dsimp only
  rw [look_eq, hf]
  dsimp only
  rw [Record.seen_absorb, seenIn_prepare]

/-- A reconcile of a record whose kind is handled settles what the look saw. -/
theorem reconcile_of_look {w w₁ : Work} {seen : Seen} (hk : w.record.kind ∈ s.kinds)
    (hl : (w.prepare resolver).look s.client = (.ok seen, w₁)) :
    w.reconcile s resolver = w₁.settle s.client seen := by
  unfold reconcile ifHandled pass
  rw [if_neg (not_not_intro hk), hl]

/-- **One update is enough.** An observation has found an object that is not as wanted. The update then
sends fields, as the reconcile of an unmarked record does; and with the fields written over the object, the
next observation of the record left by the reconcile finds the object up to date and fills nothing. -/
theorem observe_after_update {w w₁ : Work} {seen : Seen} {object : Entries}
    (h : w.observe s resolver = (.ok seen, w₁))
    (hfound : (w.prepare resolver).finding s.client = .ok (some (.map object)))
    (outdated : seen.upToDate = false) (typed : w.record.DescriptionTyped object) :
    ∃ (q : Request) (fields : List (String × Value)), q.method = "PATCH" ∧ q.body = .object fields ∧
      (w₁.mutate s.client .update).2.wire.sent = w₁.wire.sent ++ [q] ∧
      (w.record.deleting = false →
        (w.reconcile s resolver).2.wire.sent = w₁.wire.sent ++ [q]) ∧
      ∀ (w₂ : Work) (resolver₂ : Option Resolver),
        w₂.record = (w.reconcile s resolver).2.record →
        (w₂.prepare resolver₂).finding s.client
          = .ok (some (.map (object.overwrite fields))) →
        (w₂.observe s resolver₂).1 = .ok ⟨true, true, false⟩ := by
  obtain ⟨hk, hl⟩ := observe_ok h
  have hreconcile := reconcile_of_look hk hl
  obtain ⟨hnone, -, -⟩ | ⟨v, r, hsome, ha, hw⟩ := look_ok hl
  · rw [hfound] at hnone
    cases hnone
  rw [hfound] at hsome
  cases hsome
  -- the record has absorbed the object, and nothing after the look writes to what it wants
  have hseen := Record.absorb_patched ha (descriptionTyped_prepare.mpr typed)
  have hpresent := (Record.absorb_ok (finding_plain hfound) ha).1
  have hmeta : r.metadata = (w.prepare resolver).record.metadata := by
    rw [← Record.metadata_absorb _ (.map object) (w.prepare resolver).record, ha]
  have hr : w₁.record = r := by rw [hw, record_withRecord]
  refine ⟨r.mutationRequest s.client .update, r.patch, ?_, ?_, ?_, ?_, ?_⟩
  · exact Record.method_mutationRequest s.client r .update
  · exact Record.body_update s.client r
  · rw [mutate_sent, hr]
  · intro hd
    have hplan : plan? w₁.record.deleting seen = some .update := by
      refine (plan_eq_some_iff _ _ _).mpr ⟨?_, hpresent, outdated⟩
      rw [hr, Record.deleting, hmeta]
      exact (deleting_prepare w resolver).trans hd
    rw [hreconcile, settle_sent, hplan, hr]
    rfl
  · intro w₂ resolver₂ hrecord hfound₂
    have hres : w₂.record.resource = r.resource := by
      rw [hrecord, hreconcile, resource_settle, hr]
    have hk₂ : w₂.record.kind ∈ s.kinds := by
      have hkr : r.kind = w.record.kind := by
        rw [← kind_prepare w resolver, ← Record.kind_absorb _ (.map object) (w.prepare resolver).record,
          ha]
      rw [Record.kind, hres, ← Record.kind, hkr]
      exact hk
    rw [seen_observe hk₂ hfound₂, hres, hseen]
    rfl

/-- A bucket without a description on the server. -/
def undescribed : Entries :=
  [(.text "id", .text "b1"), (.text "retentionRules", .list [.object
    [("everySeconds", .int 3600), ("shardGroupDurationSeconds", .int 60)]])]

/-- A record of it that wants a description, and takes the duration of shards from the server. -/
def redescribed : Work :=
  .ofAnswers (.ofName "logs" (.bucket { Bucket.Parameters.empty with
      description := .text "all logs", retentionRules := [⟨"expire", 3600, none⟩] } .empty))
    [.ofValue (.object [("buckets", .list [.map undescribed])]), .response 200 ""]

/-- The fields that its update sends. -/
def redescription : List (String × Value) :=
  [("name", .text "logs"), ("retentionRules", .list [.object
    [("type", .text "expire"), ("everySeconds", .int 3600), ("shardGroupDurationSeconds", .int 60)]]),
    ("description", .text "all logs")]

/-- The record that the update leaves, with the fields written over the bucket on the server. -/
def updated (s : Setup) : Work :=
  .ofAnswers (redescribed.reconcile s none).2.record
    [.ofValue (.object [("buckets", .list [.map (undescribed.overwrite redescription)])])]

/-- The update sends the description, and the next look finds the bucket as wanted. -/
theorem observe_after_update_redescribed :
    let s := Setup.ofClient ⟨"http://db", "", 30⟩
    (redescribed.observe s none).1 = .ok ⟨true, false, true⟩ ∧ redescribed.record.deleting = false ∧
      (∃ q : Request, q.method = "PATCH" ∧ q.body = .object redescription ∧
        (redescribed.reconcile s none).2.wire.sent = (redescribed.observe s none).2.wire.sent ++ [q]) ∧
      ((updated s).prepare none).finding s.client
        = .ok (some (.map (undescribed.overwrite redescription))) ∧
      ((updated s).observe s none).1 = .ok ⟨true, true, false⟩ := by
  intro s
  have h : (redescribed.observe s none).1 = .ok ⟨true, false, true⟩ := by decide +kernel
  have hfound : (redescribed.prepare none).finding s.client = .ok (some (.map undescribed)) := by
    decide +kernel
  have hlater : ((updated s).prepare none).finding s.client
      = .ok (some (.map (undescribed.overwrite redescription))) := by decide +kernel
  obtain ⟨q, fields, hmethod, hbody, -, hsent, hsettled⟩ :=
    observe_after_update (Prod.fst_eq_iff.mp h) hfound rfl ⟨Or.inr ⟨_, rfl⟩, Or.inl (by decide)⟩
  have hsent := hsent rfl
  -- the fields are those of the last request
  have hlast : ((redescribed.reconcile s none).2.wire.sent.map (·.body)).getLast?
      = some (.object redescription) := by decide +kernel
  rw [hsent, List.map_append, List.map_singleton, List.getLast?_concat, hbody] at hlast
  have hfields : fields = redescription := by
    refine (List.map_inj_right fun a b hab => ?_).mp (Value.map.inj (Option.some.inj hlast))
    obtain ⟨hkey, hvalue⟩ := Prod.mk.inj hab
    exact Prod.ext (Scalar.text.inj hkey) hvalue
  subst hfields
  have hrecord : (updated s).record = (redescribed.reconcile s none).2.record := by
    dsimp only [updated, ofAnswers]
  exact ⟨h, rfl, ⟨q, hmethod, hbody, hsent⟩, hlater, hsettled (updated s) none hrecord hlater⟩

end Work

end InfluxKeeper
