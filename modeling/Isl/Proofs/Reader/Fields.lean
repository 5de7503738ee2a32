import Isl.Proofs.Reader.Type
import Isl.Proofs.Writer.Lasts
import Mathlib.Data.List.Forall2
/-!
# Every field of a definition is accounted for

A field of a definition is left out, states a constraint or is open content. A read that puts
nothing on record loses none of them and takes none twice.

* `ok_iff_accepted`: a read puts nothing on record exactly if its value is accepted;
* `closes_iff`: what it is to close the content of a definition;
* `accepted?_definitionParts_iff`: the parts of a definition by its fields;
* `typeDefinition_ok_iff`: the definition by its fields.
-/
namespace Isl.Reader

theorem ok_iff_accepted {α : Type} {r : Read α} (steady : Steady r) (errors : List ReadError)
    (a : α) : r errors = .ok a errors ↔ accepted? r = some a := by
  rw [steady errors, accepted?]
  cases r [] with
  | ok b es => cases es <;> simp [behind]
  | error h es => simp [behind]

/-! ## Closed content -/

theorem closeFields_cons {c : Constraint} (other : c.isFields = false) (cs : List Constraint) :
    Parts.closeFields (c :: cs) = c :: Parts.closeFields cs := by
  cases c <;> first | rfl | cases other

/-- Constraints before and after the content is closed: the first `fields` constraint is closed, or
an empty one that is closed comes last. -/
inductive Closes : List Constraint → List Constraint → Prop where
  | first {before after : List Constraint} {fs : List FieldArgument} {closed : Bool}
      (none : ∀ c ∈ before, c.isFields = false) :
      Closes (before ++ .fields fs closed :: after) (before ++ .fields fs true :: after)
  | added {cs : List Constraint} (none : ∀ c ∈ cs, c.isFields = false) :
      Closes cs (cs ++ [.fields [] true])

theorem Closes.cons {c : Constraint} {cs ds : List Constraint} (other : c.isFields = false)
    (h : Closes cs ds) : Closes (c :: cs) (c :: ds) := by
  cases h with
  | @first before after fs closed none =>
    exact @Closes.first (c :: before) after fs closed (List.forall_mem_cons.2 ⟨other, none⟩)
  | added none => exact .added (List.forall_mem_cons.2 ⟨other, none⟩)

theorem closes_closeFields (cs : List Constraint) : Closes cs (Parts.closeFields cs) := by
  induction cs with
  | nil => exact @Closes.added [] (List.forall_mem_nil _)
  | cons c cs ih =>
    cases fields : c.isFields with
    | true =>
      cases c with
      | fields fs closed => exact @Closes.first [] cs fs closed (List.forall_mem_nil _)
      | _ => cases fields
    | false =>
      rw [closeFields_cons fields]
      exact ih.cons fields

theorem closeFields_before {cs : List Constraint} (none : ∀ c ∈ cs, c.isFields = false)
    (ds : List Constraint) : Parts.closeFields (cs ++ ds) = cs ++ Parts.closeFields ds := by
  induction cs with
  | nil => rfl
  | cons c cs ih =>
    obtain ⟨other, none⟩ := List.forall_mem_cons.1 none
    rw [List.cons_append, closeFields_cons other, ih none, List.cons_append]

theorem closes_iff {cs ds : List Constraint} : Closes cs ds ↔ ds = Parts.closeFields cs := by
  constructor
  · intro h
    cases h with
    | first none => rw [closeFields_before none, Parts.closeFields]
    | added none =>
      have closed := closeFields_before none []
      rwa [List.append_nil, Parts.closeFields, eq_comm] at closed
  · rintro rfl
    exact closes_closeFields cs

/-- Closing the content of a definition adds no constraint but one on its fields. -/
theorem mem_of_closeFields {cs : List Constraint} {c : Constraint} (other : c.isFields = false)
    (mem : c ∈ Parts.closeFields cs) : c ∈ cs := by
  have closes := closes_closeFields cs
  generalize Parts.closeFields cs = closed at mem closes
  cases closes with
  | first none =>
    simp only [List.mem_append, List.mem_cons] at mem ⊢
    rcases mem with mem | rfl | mem
    · exact .inl mem
    · cases other
    · exact .inr (.inr mem)
  | added none =>
    rcases List.mem_append.1 mem with mem | mem
    · exact mem
    · obtain rfl := List.mem_singleton.1 mem
      cases other

theorem contentClosed_eq_ok_iff {e : Element} {u : Unit} :
    contentClosed e = .ok u ↔ e = .symbol "closed" := by
  obtain ⟨names, v⟩ := e
  rw [contentClosed, require_eq_ok_iff]
  cases v <;> simp [Element.symbol?, Element.symbol, Element.ofValue, and_comm]

/-! ## The parts of a definition -/

namespace Context

/-- A field that is neither a constraint nor open content. -/
def leavesOut (ctx : Context) (name : String) : Bool :=
  name == "name" || name == "occurs" || (name == "content" && ctx.version == .v1)

/-- A field that is not left out and does not state a constraint. -/
def remains (ctx : Context) (name : String) : Bool :=
  !ctx.leavesOut name && !ctx.vocabulary.isConstraint name

/-- Content is closed by a plain symbol, and a reserved word is declared. -/
@[mk_iff]
structure Admits (ctx : Context) (f : Field) : Prop where
  content : f.name = "content" → ctx.version = .v1 → f.value = .symbol "closed"
  declared : ctx.remains f.name = true → ctx.vocabulary.isReserved f.name = true →
    f.name ∈ ctx.declared.type

theorem states_eq (ctx : Context) (name : String) :
    ctx.states name = (!ctx.leavesOut name && ctx.vocabulary.isConstraint name) := by
  simp [states, leavesOut, bne, Bool.and_assoc]

theorem isOpen_eq (ctx : Context) (name : String) :
    ctx.isOpen name = (ctx.remains name &&
      (!ctx.vocabulary.isReserved name || ctx.declared.type.contains name)) := by
  simp [isOpen, remains, leavesOut, bne, Bool.and_assoc]

/-- A definition in version 1.0 whose content is closed. -/
def closesContent (ctx : Context) (fs : List Field) : Bool :=
  ctx.version == .v1 && Field.has fs "content"

end Context

/-- The parts that these fields amount to: the constraints read one by one, and the fields that
remain, in their order. -/
@[mk_iff]
structure Accounts (ctx : Context) (path : TreePath) (fs : List Field) (p : Parts) : Prop where
  constraints : List.Forall₂
    (fun f c => accepted? (constraintOf ctx (path.field f.name) f.name f.value) = some c)
    (fs.filter (ctx.states ·.name)) p.constraints
  openContent : p.openContent = fs.filter (ctx.remains ·.name)
  contentClosed : p.contentClosed = ctx.closesContent fs

section
variable {ctx : Context} {path : TreePath}

theorem forall₂_append_left {α β : Type} {R : α → β → Prop} {as as' : List α} {bs : List β}
    (h : List.Forall₂ R (as ++ as') bs) :
    ∃ cs ds, List.Forall₂ R as cs ∧ List.Forall₂ R as' ds ∧ bs = cs ++ ds :=
  ⟨_, _, (List.forall₂_take_append _ _ _ h.flip).flip, (List.forall₂_drop_append _ _ _ h.flip).flip,
    (List.take_append_drop as.length bs).symm⟩

theorem accounts_append_iff {fs gs : List Field} {p : Parts} :
    Accounts ctx path (fs ++ gs) p ↔
      ∃ q r, Accounts ctx path fs q ∧ Accounts ctx path gs r ∧ p = q.append r := by
  have closes : ctx.closesContent (fs ++ gs) =
      (ctx.closesContent fs || ctx.closesContent gs) := by
    simp only [Context.closesContent, Field.has, List.any_append, Bool.and_or_distrib_left]
  constructor
  · rintro ⟨constraints, openContent, contentClosed⟩
    rw [List.filter_append] at constraints openContent
    obtain ⟨cs, os, closed⟩ := p
    obtain ⟨first, rest, hfirst, hrest, rfl⟩ := forall₂_append_left constraints
    refine ⟨⟨first, _, ctx.closesContent fs⟩, ⟨rest, _, ctx.closesContent gs⟩,
      ⟨hfirst, rfl, rfl⟩, ⟨hrest, rfl, rfl⟩, ?_⟩
    dsimp only at openContent contentClosed
    rw [openContent, contentClosed, closes]
    rfl
  · rintro ⟨q, r, hq, hr, rfl⟩
    refine ⟨?_, ?_, ?_⟩
    · rw [List.filter_append]
      exact List.rel_append hq.constraints hr.constraints
    · rw [List.filter_append, ← hq.openContent, ← hr.openContent]
      rfl
    · rw [closes, ← hq.contentClosed, ← hr.contentClosed]
      rfl

theorem accounts_nil_iff {p : Parts} : Accounts ctx path [] p ↔ p = .empty := by
  constructor
  · rintro ⟨constraints, openContent, contentClosed⟩
    obtain ⟨cs, fs, closed⟩ := p
    simp_all [Context.closesContent, Field.has, Parts.empty]
  · rintro rfl
    exact ⟨.nil, rfl, by simp [Context.closesContent, Field.has, Parts.empty]⟩

theorem accounts_singleton_iff {name : String} {e : Element} {p : Parts} :
    Accounts ctx path [⟨name, e⟩] p ↔
      (if ctx.states name then
          ∃ c, accepted? (constraintOf ctx (path.field name) name e) = some c ∧ p.constraints = [c]
        else p.constraints = []) ∧
        p.openContent = (if ctx.remains name then [⟨name, e⟩] else []) ∧
        p.contentClosed = (ctx.version == .v1 && name == "content") := by
  rw [accounts_iff]
  refine and_congr ?_ (and_congr ?_ ?_)
  · cases h : ctx.states name <;> simp [h, List.forall₂_cons_left_iff]
  · cases h : ctx.remains name <;> simp [h]
  · simp [Context.closesContent, Field.has]

/-- A field that remains is open content, unless its name is reserved and nothing declares it. -/
theorem accepted?_definitionField_remains {name : String} (remains : ctx.remains name = true)
    (path : TreePath) (e : Element) :
    accepted? (definitionField ctx path ⟨name, e⟩) =
      if ctx.vocabulary.isReserved name = true → name ∈ ctx.declared.type then
        some ⟨[], [⟨name, e⟩], false⟩
      else none := by
  split
  · rename_i declared
    refine accepted?_definitionField_open ?_ path e
    rw [imp_iff_not_or] at declared
    rw [ctx.isOpen_eq, remains]
    simpa using declared
  · rename_i undeclared
    simp only [Context.remains, Context.leavesOut, Bool.and_eq_true, Bool.not_eq_true',
      Bool.or_eq_false_iff] at remains
    obtain ⟨⟨named, content⟩, constraint⟩ := remains
    rw [definitionField, if_neg (by simp [named]), if_neg (by simp [content]),
      if_neg (by simp [constraint]), if_pos (by simpa using undeclared), accepted?_bind_pure,
      accepted?_report, Option.map_none]

/-- One field, by the class of its name. -/
theorem accepted?_definitionField_iff {f : Field} {p : Parts} :
    accepted? (definitionField ctx path f) = some p ↔
      ctx.Admits f ∧ Accounts ctx path [f] p := by
  obtain ⟨name, e⟩ := f
  obtain ⟨cs, os, closed⟩ := p
  rw [accounts_singleton_iff, Context.admits_iff]
  by_cases content : name = "content" ∧ ctx.version = .v1
  · obtain ⟨rfl, v1⟩ := content
    have out : ctx.leavesOut "content" = true := by rw [Context.leavesOut, v1]; rfl
    rw [accepted?_definitionField_content v1, Option.map_eq_some_iff]
    simp [ctx.states_eq, Context.remains, out, v1, toOption_eq_some_iff, contentClosed_eq_ok_iff,
      eq_comm (a := [])]
  have plain : (ctx.version == .v1 && name == "content") = false := by
    rw [Bool.and_comm]
    simpa using content
  rw [and_iff_right fun named v1 => absurd ⟨named, v1⟩ content, plain]
  by_cases skipped : name = "name" ∨ name = "occurs"
  · have out : ctx.leavesOut name = true := by
      rcases skipped with rfl | rfl <;> rfl
    rw [accepted?_definitionField_skipped skipped]
    simp [ctx.states_eq, Context.remains, out, Parts.empty, eq_comm (a := [])]
  have kept : ctx.leavesOut name = false := by
    rw [not_or] at skipped
    simpa [Context.leavesOut, skipped] using content
  cases constraint : ctx.vocabulary.isConstraint name with
  | true =>
    have states : ctx.states name = true := by rw [ctx.states_eq, kept, constraint]; rfl
    rw [accepted?_definitionField_constraint states, Option.map_eq_some_iff]
    simp [states, Context.remains, constraint, ← exists_and_right, and_assoc, eq_comm (b := cs)]
  | false =>
    have states : ctx.states name = false := by rw [ctx.states_eq, kept, constraint]; rfl
    have remains : ctx.remains name = true := by rw [Context.remains, kept, constraint]; rfl
    rw [states, accepted?_definitionField_remains remains]
    split
    · rename_i declared
      rw [and_iff_right fun _ => declared]
      simp [eq_comm (b := cs), eq_comm (b := os)]
    · rename_i undeclared
      exact iff_of_false (by simp) fun h => undeclared (h.1 remains)

theorem accepted?_definitionParts_iff {fs : List Field} {p : Parts} :
    accepted? (definitionParts ctx path fs) = some p ↔
      (∀ f ∈ fs, ctx.Admits f) ∧ Accounts ctx path fs p := by
  induction fs generalizing p with
  | nil => simp [accepted?_definitionParts_nil, accounts_nil_iff, eq_comm]
  | cons f fs ih =>
    rw [accepted?_definitionParts_cons, Option.bind_eq_some_iff, List.forall_mem_cons,
      ← List.singleton_append, accounts_append_iff]
    simp only [Option.map_eq_some_iff, accepted?_definitionField_iff, ih]
    constructor
    · rintro ⟨q, ⟨admits, first⟩, r, ⟨others, rest⟩, rfl⟩
      exact ⟨⟨admits, others⟩, q, r, first, rest, rfl⟩
    · rintro ⟨⟨admits, others⟩, q, r, first, rest, rfl⟩
      exact ⟨q, ⟨admits, first⟩, r, ⟨others, rest⟩, rfl⟩

end

/-- A definition is read with nothing new on record exactly if its fields are admitted and every
one is accounted for. What is left out beside `name` and `occurs` is the `content` of version 1.0,
and all that it does is to close the content. -/
theorem typeDefinition_ok_iff (ctx : Context) (path : TreePath) (fs : List Field)
    (errors : List ReadError) (d : TypeDefinition) :
    typeDefinition ctx path fs errors = .ok d errors ↔
      (∀ f ∈ fs, ctx.Admits f) ∧
        d.openContent = (fs.filter fun f =>
          !ctx.leavesOut f.name && !ctx.vocabulary.isConstraint f.name) ∧
        ∃ cs, List.Forall₂
            (fun f c => constraintOf ctx (path.field f.name) f.name f.value errors = .ok c errors)
            (fs.filter fun f => !ctx.leavesOut f.name && ctx.vocabulary.isConstraint f.name) cs ∧
          if ctx.version = .v1 ∧ ∃ f ∈ fs, f.name = "content" then Closes cs d.constraints
          else d.constraints = cs := by
  have steady : Steady (typeDefinition ctx path fs) :=
    steady_bind (steady_definitionParts ctx path fs) fun _ => steady_pure _
  have closes : ctx.closesContent fs = true ↔
      ctx.version = .v1 ∧ ∃ f ∈ fs, f.name = "content" := by
    simp [Context.closesContent, Field.has]
  have reads (f : Field) (c : Constraint) :=
    ok_iff_accepted (steady_constraintOf ctx (path.field f.name) f.name f.value) errors c
  rw [ok_iff_accepted steady, typeDefinition, accepted?_bind_pure, Option.map_eq_some_iff]
  simp only [accepted?_definitionParts_iff, reads, ← ctx.states_eq, ← closes]
  constructor
  · rintro ⟨⟨cs, os, closed⟩, ⟨admits, constraints, openContent, contentClosed⟩, rfl⟩
    refine ⟨admits, openContent, cs, constraints, ?_⟩
    dsimp only at contentClosed
    rw [← contentClosed]
    cases closed with
    | true => exact closes_closeFields cs
    | false => rfl
  · rintro ⟨admits, openContent, cs, constraints, closing⟩
    refine ⟨⟨cs, d.openContent, ctx.closesContent fs⟩, ⟨admits, constraints, openContent, rfl⟩, ?_⟩
    have same : d.constraints = if ctx.closesContent fs then Parts.closeFields cs else cs := by
      split at closing
      · rw [if_pos ‹_›]
        exact closes_iff.1 closing
      · rw [if_neg ‹_›]
        exact closing
    rw [Parts.definition, ← same]
    cases d
    rfl

end Isl.Reader
