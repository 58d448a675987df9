import InfluxKeeper.Proofs.Text.Chunks
import InfluxKeeper.Proofs.Yaml.Building

/-!
# What is loaded as YAML

Documents are built from tokens by way of nodes, and reading them fails for their tokens, for a tree that no
document has, or for a scalar that no value has.

> `load_timely`: the dates and points in time of documents that are read are real.
> `load_arises`: a fault of reading documents arises from their text.
> `load_scalar`, `load_notText`: a scalar is refused only if no value has it, and octets only if they are no text.

The readers of nodes keep the fault that the tokens end with (`Reads`). They call each other with one step of fuel
less, so what they come to with some fuel is said of all of them together (`ReadsNodes`).
-/

namespace InfluxKeeper.Yaml

open Text

variable {α β : Type} {flaw : Option Fault}

/-! ## Nodes -/

section

variable {fault : Option Fault} {r : Reader}

/-- A step of a reader of nodes: it leaves a reader whose tokens end with the same fault, or a fault arises. -/
abbrev Reads (flaw fault : Option Fault) (x : Except Fault (α × Reader)) : Prop :=
  Sound flaw (fun read => read.2.fault = fault) x

theorem Reads.bind {x : Except Fault (α × Reader)} {f : α × Reader → Except Fault (β × Reader)}
    (h : Reads flaw fault x) (hf : ∀ a r, r.fault = fault → Reads flaw fault (f (a, r))) :
    Reads flaw fault (x >>= f) :=
  Sound.bind h fun read hread => hf read.1 read.2 hread

variable (hfault : ∀ f, fault = some f → f.Arises flaw)

include hfault

theorem safe_peek (h : r.fault = fault) : Safe flaw r.peek := by
  unfold Reader.peek
  split
  · exact safe_ok _
  · rw [h, safe_error_iff]
    cases fault with
    | none => exact .malformed
    | some f => exact hfault f rfl

omit hfault in
theorem Reads.opened {anchor : Option String} {f : Reader → Except Fault (β × Reader)} (h : r.fault = fault)
    (hf : ∀ r, r.fault = fault → Reads flaw fault (f r)) : Reads flaw fault (r.open? anchor >>= f) := by
  unfold Reader.open?
  split
  · exact hf r h
  · split
    · exact .read safe_malformed nofun
    · exact hf _ h

omit hfault in
theorem Reads.finish {anchor : Option String} {n : Node} (h : r.fault = fault) :
    Reads flaw fault (.ok (r.finish anchor n)) := by
  unfold Reader.finish
  split
  · exact .ok h
  · exact .ok h

omit hfault in
@[simp] theorem safe_resolveTag (handles : Handles) (handle : Option String) (suffix : String) :
    Safe flaw (resolveTag handles handle suffix) := by
  unfold resolveTag
  split
  · exact safe_ok _
  · split
    · exact safe_ok _
    · exact safe_malformed

theorem readProperties_reads (handles : Handles) (h : r.fault = fault) :
    Reads flaw fault (readProperties handles r) := by
  unfold readProperties
  refine .read (safe_peek hfault h) fun t _ => ?_
  split
  · refine .read (safe_peek hfault h) fun t _ => ?_
    split
    · exact .read (safe_resolveTag _ _ _) fun _ _ => .ok h
    · exact .ok h
  · refine .read (safe_resolveTag _ _ _) fun tag _ => .read (safe_peek hfault h) fun t _ => ?_
    split
    · exact .ok h
    · exact .ok h
  · exact .ok h

theorem Reads.peek {f : Token → Except Fault (β × Reader)} (h : r.fault = fault)
    (hf : ∀ t, Reads flaw fault (f t)) : Reads flaw fault (r.peek >>= f) :=
  .read (safe_peek hfault h) fun t _ => hf t

omit hfault

/-- An item after the first stands after a comma. -/
theorem fault_afterComma (first : Bool) (h : r.fault = fault) :
    (if first = true then r else r.next).fault = fault := by
  split
  · exact h
  · exact h

/-- What is read with some fuel is as it should be, whichever reader of nodes reads it. -/
structure ReadsNodes (flaw fault : Option Fault) (handles : Handles) (fuel : Nat) : Prop where
  node : ∀ place r, r.fault = fault → Reads flaw fault (readNode handles fuel place r)
  nodeUnless : ∀ place stops r, r.fault = fault → Reads flaw fault (readNodeUnless handles fuel place stops r)
  blockItems : ∀ r, r.fault = fault → Reads flaw fault (readBlockItems handles fuel r)
  dashes : ∀ r, r.fault = fault → Reads flaw fault (readDashes handles fuel r)
  blockEntries : ∀ r, r.fault = fault → Reads flaw fault (readBlockEntries handles fuel r)
  flowItems : ∀ first r, r.fault = fault → Reads flaw fault (readFlowItems handles fuel first r)
  flowEntries : ∀ first r, r.fault = fault → Reads flaw fault (readFlowEntries handles fuel first r)

namespace ReadsNodes

theorem zero (handles : Handles) : ReadsNodes flaw fault handles 0 where
  node _ _ _ := by rw [readNode]; exact .malformed
  nodeUnless _ _ _ _ := by rw [readNodeUnless]; exact .malformed
  blockItems _ _ := by rw [readBlockItems]; exact .malformed
  dashes _ _ := by rw [readDashes]; exact .malformed
  blockEntries _ _ := by rw [readBlockEntries]; exact .malformed
  flowItems _ _ _ := by rw [readFlowItems]; exact .malformed
  flowEntries _ _ _ := by rw [readFlowEntries]; exact .malformed

variable {handles : Handles} {fuel : Nat} (ih : ReadsNodes flaw fault handles fuel)

include ih hfault

theorem node_succ (place : Place) (h : r.fault = fault) :
    Reads flaw fault (readNode handles (fuel + 1) place r) := by
  unfold readNode
  refine Reads.peek hfault h fun t => ?_
  split
  · split
    · exact .ok h
    · exact .ok h
    · exact .malformed
  · refine (readProperties_reads hfault handles h).bind fun p r h => ?_
    refine Reads.peek hfault h fun t => ?_
    dsimp only
    split
    · exact Reads.opened h fun r h => .finish h
    · exact Reads.opened h fun r h => (ih.flowItems true r.next h).bind fun _ _ h => .finish h
    · exact Reads.opened h fun r h => (ih.flowEntries true r.next h).bind fun _ _ h => .finish h
    · refine .ite ?_ (.ite ?_ (.ite ?_ (.ite ?_ .malformed)))
      · exact Reads.opened h fun r h => (ih.dashes r h).bind fun _ _ h => .finish h
      · exact Reads.opened h fun r h => (ih.blockItems r.next h).bind fun _ _ h => .finish h
      · exact Reads.opened h fun r h => (ih.blockEntries r.next h).bind fun _ _ h => .finish h
      · exact Reads.opened h fun r h => .finish h

theorem nodeUnless_succ (place : Place) (stops : List Token) (h : r.fault = fault) :
    Reads flaw fault (readNodeUnless handles (fuel + 1) place stops r) := by
  unfold readNodeUnless
  exact Reads.peek hfault h fun t => .ite (.ok h) (ih.node place r h)

theorem blockItems_succ (h : r.fault = fault) : Reads flaw fault (readBlockItems handles (fuel + 1) r) := by
  unfold readBlockItems
  refine Reads.peek hfault h fun t => ?_
  split
  · exact (ih.nodeUnless _ _ r.next h).bind fun _ r h => (ih.blockItems r h).bind fun _ _ h => .ok h
  · exact .ok h
  · exact .malformed

theorem dashes_succ (h : r.fault = fault) : Reads flaw fault (readDashes handles (fuel + 1) r) := by
  unfold readDashes
  refine Reads.peek hfault h fun t => ?_
  split
  · exact (ih.nodeUnless _ _ r.next h).bind fun _ r h => (ih.dashes r h).bind fun _ _ h => .ok h
  · exact .ok h

theorem blockEntries_succ (h : r.fault = fault) :
    Reads flaw fault (readBlockEntries handles (fuel + 1) r) := by
  have hrest (key value : Node) (r : Reader) (h : r.fault = fault) : Reads flaw fault
      (readBlockEntries handles fuel r >>= fun read => pure ((key, value) :: read.1, read.2)) :=
    (ih.blockEntries r h).bind fun _ _ h => .ok h
  unfold readBlockEntries
  refine Reads.peek hfault h fun t => ?_
  split
  · exact .ok h
  · refine (ih.nodeUnless _ _ r.next h).bind fun key r h => ?_
    refine Reads.peek hfault h fun t => ?_
    split
    · exact (ih.nodeUnless _ _ r.next h).bind (hrest key)
    · exact hrest key emptyNode r h
  · exact .malformed

theorem flowItems_succ (first : Bool) (h : r.fault = fault) :
    Reads flaw fault (readFlowItems handles (fuel + 1) first r) := by
  have hrest (item : Node) (r : Reader) (h : r.fault = fault) : Reads flaw fault
      (readFlowItems handles fuel false r >>= fun read => pure (item :: read.1, read.2)) :=
    (ih.flowItems false r h).bind fun _ _ h => .ok h
  have hnext := fault_afterComma first h
  unfold readFlowItems
  refine Reads.peek hfault h fun t => ?_
  split
  · exact .ok h
  · refine .ite (.read safe_malformed nofun) (Reads.peek hfault hnext fun t => ?_)
    split
    · exact .ok hnext
    · refine (ih.nodeUnless _ _ (Reader.next _) hnext).bind fun key r h => ?_
      refine Reads.peek hfault h fun t => ?_
      split
      · exact (ih.nodeUnless _ _ r.next h).bind fun value => hrest (.mapping Tag.mapping [(key, value)])
      · exact hrest (.mapping Tag.mapping [(key, emptyNode)]) r h
    · exact (ih.node _ _ hnext).bind hrest

theorem flowEntries_succ (first : Bool) (h : r.fault = fault) :
    Reads flaw fault (readFlowEntries handles (fuel + 1) first r) := by
  have hrest (key value : Node) (r : Reader) (h : r.fault = fault) : Reads flaw fault
      (readFlowEntries handles fuel false r >>= fun read => pure ((key, value) :: read.1, read.2)) :=
    (ih.flowEntries false r h).bind fun _ _ h => .ok h
  have hnext := fault_afterComma first h
  unfold readFlowEntries
  refine Reads.peek hfault h fun t => ?_
  split
  · exact .ok h
  · refine .ite (.read safe_malformed nofun) (Reads.peek hfault hnext fun t => ?_)
    split
    · exact .ok hnext
    · refine (ih.nodeUnless _ _ (Reader.next _) hnext).bind fun key r h => ?_
      refine Reads.peek hfault h fun t => ?_
      split
      · exact (ih.nodeUnless _ _ r.next h).bind (hrest key)
      · exact hrest key emptyNode r h
    · exact (ih.node _ _ hnext).bind fun key => hrest key emptyNode

end ReadsNodes

include hfault in
theorem readsNodes (handles : Handles) (fuel : Nat) : ReadsNodes flaw fault handles fuel := by
  induction fuel with
  | zero => exact .zero handles
  | succ fuel ih =>
    exact {
      node := fun place _ h => ih.node_succ hfault place h
      nodeUnless := fun place stops _ h => ih.nodeUnless_succ hfault place stops h
      blockItems := fun _ h => ih.blockItems_succ hfault h
      dashes := fun _ h => ih.dashes_succ hfault h
      blockEntries := fun _ h => ih.blockEntries_succ hfault h
      flowItems := fun first _ h => ih.flowItems_succ hfault first h
      flowEntries := fun first _ h => ih.flowEntries_succ hfault first h }

/-! ## Documents -/

@[simp] theorem safe_readDirectives (versions : Nat) (handles : Handles) (tokens : List Token) :
    Safe flaw (readDirectives versions handles tokens) := by
  induction tokens generalizing versions handles with
  | nil => simp [readDirectives]
  | cons t rest ih =>
    unfold readDirectives
    split
    · next heq => cases heq; simp [ih]
    · next heq => cases heq; simp [ih]
    · next heq => cases heq; exact ih _ _
    · exact safe_ok _

section

include hfault

theorem readContent_reads (handles : Handles) (h : r.fault = fault) :
    Reads flaw fault (readContent handles r) := by
  unfold readContent
  refine ((readsNodes hfault _ _).node .block { r with names := [] } h).bind fun n r h => ?_
  refine Reads.peek hfault h fun t => ?_
  split
  · exact .ok h
  · exact .ok h

theorem readMarkedContent_reads (handles : Handles) (h : r.fault = fault) :
    Reads flaw fault (readMarkedContent handles r) := by
  unfold readMarkedContent
  refine Reads.peek hfault h fun t => ?_
  split
  all_goals first | exact .ok h | exact readContent_reads hfault handles h

end

/-- A step that may find no document. -/
abbrev ReadsMaybe (flaw fault : Option Fault) (x : Except Fault (Option (Node × Reader))) : Prop :=
  Sound flaw (fun read => ∀ n r, read = some (n, r) → r.fault = fault) x

theorem Reads.maybe {x : Except Fault (Node × Reader)} (h : Reads flaw fault x) :
    ReadsMaybe flaw fault (do return some (← x)) :=
  Sound.bind h fun read hread => .ok fun n r hr => by cases hr; exact hread

include hfault

theorem readDocument?_reads (first : Bool) (h : r.fault = fault) :
    ReadsMaybe flaw fault (readDocument? first r) := by
  have hexplicit (tokens : List Token) : ReadsMaybe flaw fault (do
      if (← Reader.peek { r with tokens }) = .streamEnd then return none
      let read ← readDirectives 0 [] tokens
      let r := { r with tokens := read.2 }
      if (← r.peek) ≠ .documentStart then malformed
      return some (← readMarkedContent (read.1 ++ defaultHandles) r.next)) := by
    refine .read (safe_peek hfault h) fun t _ => .ite (.ok nofun) (.read (safe_readDirectives _ _ _) fun read _ => ?_)
    refine .read (safe_peek hfault h) fun t _ => .ite (.read safe_malformed nofun) ?_
    exact Reads.maybe (readMarkedContent_reads hfault _ h)
  unfold readDocument?
  refine .read (safe_peek hfault h) fun t _ => ?_
  split
  case h_6 => exact .ite (readContent_reads hfault _ h).maybe (hexplicit _)
  all_goals exact hexplicit _

end

/-! ## Values of documents -/

theorem documentsFrom_safe {fault : Option Fault} (hfault : ∀ f, fault = some f → f.Arises flaw) (fuel : Nat)
    (first : Bool) {r : Reader} (h : r.fault = fault) : Safe flaw (documentsFrom fuel first r) := by
  induction fuel generalizing first r with
  | zero => exact safe_malformed
  | succ fuel ih =>
    have hread := readDocument?_reads hfault first h
    unfold documentsFrom
    refine safe_bind.mpr ⟨hread.safe, fun document hdocument => ?_⟩
    split
    · exact safe_pure _
    · refine safe_bind.mpr ⟨Node.safe_value _, fun v _ => ?_⟩
      exact safe_bind.mpr ⟨ih false (hread.holds _ hdocument _ _ rfl), fun _ _ => safe_pure _⟩

theorem documentsFrom_timely {fuel : Nat} {first : Bool} {r : Reader} {vs : List Value}
    (h : documentsFrom fuel first r = .ok vs) : ∀ v ∈ vs, v.Timely := by
  induction fuel generalizing first r vs with
  | zero => cases h
  | succ fuel ih =>
    unfold documentsFrom at h
    obtain ⟨document, -, h⟩ := bind_ok_iff.mp h
    split at h
    · cases h; simp
    · obtain ⟨v, hv, h⟩ := bind_ok_iff.mp h
      obtain ⟨rest, hrest, h⟩ := bind_ok_iff.mp h
      cases h
      exact List.forall_mem_cons.mpr ⟨Node.value_timely hv, ih hrest⟩

/-- **The documents of a text are timely.** -/
theorem load_timely {s : Source} {vs : List Value} (h : load s = .ok vs) : ∀ v ∈ vs, v.Timely :=
  documentsFrom_timely h

/-- **A fault of reading documents arises from their text.** -/
theorem load_arises {s : Source} {f : Fault} (h : load s = .error f) : f.Arises s.flaw := by
  unfold load at h
  cases htokens : tokens s with
  | mk read fault =>
    rw [htokens] at h
    have hfault (f : Fault) (hf : fault = some f) : f.Arises s.flaw := tokens_arises (htokens ▸ hf)
    exact documentsFrom_safe hfault _ true rfl f h

/-! ## Texts of octets -/

namespace Source

/-- A flaw of octets: a character that is not allowed, or octets that are no text. -/
inductive Flaw (octets : List UInt8) : Fault → Prop
  | malformed : Flaw octets .malformed
  | notText (e : Utf8.Error) (h : ¬∃ text, Utf8.decode octets = .ok text) : Flaw octets (.notText e)

variable {octets : List UInt8}

/-- What is left of octets is a text if they are one. -/
def LeftOf (octets : List UInt8) (s : Stream) : Prop := (∃ text, Utf8.decode octets = .ok text) → s.Decodes

theorem readPiece_flaw {s : Stream} (hs : LeftOf octets s) :
    (∀ f, readPiece s = .error f → Flaw octets f) ∧
      ∀ piece s', readPiece s = .ok (piece, s') → LeftOf octets s' := by
  unfold readPiece
  constructor
  · intro f hf
    cases hread : s.read pieceSize with
    | ok => rw [hread] at hf; cases hf
    | error e =>
      rw [hread] at hf
      cases hf
      refine .notText e fun htext => ?_
      obtain ⟨piece, s', hok, -⟩ := Stream.read_of_decodes (hs htext) pieceSize
      rw [hread] at hok
      cases hok
  · intro piece s' hok htext
    obtain ⟨piece', t, hread, ht⟩ := Stream.read_of_decodes (hs htext) pieceSize
    rw [hread] at hok
    cases hok
    exact ht

theorem checkPiece_flaw {piece : List Char} {f : Fault} (h : checkPiece piece = .error f) : Flaw octets f := by
  unfold checkPiece at h
  split at h
  · cases h
  · cases h
    exact .malformed

theorem later_flaw {s : Stream} (hs : LeftOf octets s) (fuel : Nat) {f : Fault}
    (h : (later s fuel).flaw = some f) : Flaw octets f := by
  induction fuel generalizing s with
  | zero => cases h
  | succ fuel ih =>
    unfold later at h
    split at h
    · next hread => cases h; exact (readPiece_flaw hs).1 _ hread
    · next hread =>
      split at h
      · cases h
      split at h
      · next hcheck => cases h; exact checkPiece_flaw hcheck
      · exact ih ((readPiece_flaw hs).2 _ _ hread) h

theorem readStart_flaw {s : Stream} (hs : LeftOf octets s) :
    (∀ f, readStart s = .error f → Flaw octets f) ∧
      ∀ piece s', readStart s = .ok (piece, s') → LeftOf octets s' := by
  unfold readStart
  constructor
  · intro f hf
    rcases bind_error_iff.mp hf with hfirst | ⟨⟨first, s₁⟩, hfirst, hf⟩
    · exact (readPiece_flaw hs).1 _ hfirst
    have hs₁ := (readPiece_flaw hs).2 _ _ hfirst
    rcases bind_error_iff.mp hf with hsecond | ⟨⟨second, s₂⟩, -, hf⟩
    · exact (readPiece_flaw hs₁).1 _ hsecond
    rcases bind_error_iff.mp hf with hcheck | ⟨_, -, hf⟩
    · exact checkPiece_flaw hcheck
    · cases hf
  · intro piece s' hok
    obtain ⟨⟨first, s₁⟩, hfirst, hok⟩ := bind_ok_iff.mp hok
    obtain ⟨⟨second, s₂⟩, hsecond, hok⟩ := bind_ok_iff.mp hok
    obtain ⟨_, -, hok⟩ := bind_ok_iff.mp hok
    cases hok
    exact (readPiece_flaw ((readPiece_flaw hs).2 _ _ hfirst)).2 _ _ hsecond

theorem ofOctets_flaw {f : Fault} (h : (ofOctets octets).flaw = some f) : Flaw octets f := by
  have hstart : LeftOf octets (.start octets) := id
  unfold ofOctets at h
  split at h
  · next hread => cases h; exact (readStart_flaw hstart).1 _ hread
  · next hread => exact later_flaw ((readStart_flaw hstart).2 _ _ hread) _ h

end Source

/-- **A scalar is refused only if no value has it.** -/
theorem load_scalar {octets : List UInt8} {f : ScalarFault} (h : load (.ofOctets octets) = .error (.scalar f)) :
    f.Arises := by
  cases load_arises h with
  | scalar harises => exact harises
  | flaw hflaw => cases Source.ofOctets_flaw hflaw

/-- **Octets are called no text only if they are none.** -/
theorem load_notText {octets : List UInt8} {e : Utf8.Error} (h : load (.ofOctets octets) = .error (.notText e)) :
    ¬∃ text, Utf8.decode octets = .ok text := by
  cases load_arises h with
  | flaw hflaw =>
    cases Source.ofOctets_flaw hflaw with
    | notText _ h => exact h

end InfluxKeeper.Yaml
