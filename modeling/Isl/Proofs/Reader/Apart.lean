import Isl.Proofs.Reader.FailFast
import Isl.Proofs.Reader.Pointing
import Isl.Proofs.Reader.Shape
/-!
# Types keep apart

With every fault on record, a type of a document is read as it is read alone: what went wrong with
another type changes neither its errors nor what it is read as.

* `catching_apart`: a step of its own gives what the same step gives as a whole read;
* `item_type`, `itemsFrom_types`: one type of a document, and all of them;
* `SchemaReader.readSchema_types`: a document of types beside the types read alone.
-/
namespace Isl

/-- The errors of a whole read. -/
def errorsOf {α : Type} : Except (List ReadError) α → List ReadError
  | .ok _ => []
  | .error errors => errors

namespace Reader

/-! ## Steps of their own -/

section
variable {α β : Type} {R : α → β → Prop} {Q : List PathStep → Prop} {ctx : Context}

/-- With every fault on record nothing ends early. -/
theorem Ends.never_aborts {o : EStateM.Result Halt (List ReadError) α}
    {o' : EStateM.Result Halt (List ReadError) β} (h : Ends R o o') (es : List ReadError) :
    o' ≠ .error .abort es := by
  cases h <;> nofun

/-- A step of its own puts on record what the same step has as errors when it is a whole read, and
gives a value if there are none. -/
theorem catching_apart {r : TreePath → Read α} (h : Local Q r) (full : ctx.failFast = false)
    (never : ∀ es, r .root [] ≠ .error .abort es) (path : TreePath) :
    ∃ found, catching ctx path (r path) [] =
        .ok found ((errorsOf (finish .root (r .root))).map (·.under path)) ∧
      (errorsOf (finish .root (r .root)) = [] →
        ∃ a, finish .root (r .root) = .ok a ∧ found = some a) := by
  rw [catching_apply, h.moves]
  unfold finish
  cases given : r .root [] with
  | ok a es =>
    cases es with
    | nil => exact ⟨some a, rfl, fun _ => ⟨a, rfl, rfl⟩⟩
    | cons e es => exact ⟨some a, rfl, nofun⟩
  | error halt es =>
    cases halt with
    | abort => exact absurd given (never es)
    | invalid fault =>
      refine ⟨none, ?_, fun clean => absurd clean (by simp [errorsOf])⟩
      simp [placed, bind_apply, report, full, pure, EStateM.pure, errorsOf, ReadError.under,
        TreePath.root]

end

/-! ## Types in a document -/

section
variable {d : Dialect} {p : Progress} {t : Element}

/-- Behind the marker and in front of a footer, with every fault on record. -/
structure AmongTypes (d : Dialect) (p : Progress) : Prop where
  context : p.context = d.context .v2 false
  place : p.place = .beforeHeader ∨ p.place = .types
  going : p.stopped = false

theorem item_eq_type (among : AmongTypes d p) (type : isAnnotatedStruct t "type" = true)
    (path : TreePath) :
    item d p path t = catching p.context path (namedType p.context path t) >>= fun found =>
      pure { p.add (found.toList.map .type) with place := .types } := by
  have noHeader : isAnnotatedStruct t "schema_header" = false :=
    isAnnotatedStruct_eq_false (by decide) type
  have body : item d p path t = bodyItem p path t := by
    rw [item, if_neg (by simp [isMarker_eq_false type])]
    rcases among.place with place | place <;> rw [place]
  rw [body, bodyItem, if_neg (by simp [noHeader]), if_pos type]

/-- A type adds its own errors to the record, and itself to the items if there are none. -/
theorem item_type (among : AmongTypes d p) (type : isAnnotatedStruct t "type" = true)
    (path : TreePath) :
    ∃ found, item d p path t [] =
        .ok { p.add (found.toList.map .type) with place := .types }
          ((errorsOf (SchemaReader.readNamedType ⟨d, .v2⟩ t false)).map (·.under path)) ∧
      (errorsOf (SchemaReader.readNamedType ⟨d, .v2⟩ t false) = [] →
        ∃ a, SchemaReader.readNamedType ⟨d, .v2⟩ t false = .ok a ∧ found = some a) := by
  have never : ∀ es, namedType (d.context .v2 false) .root t [] ≠ .error .abort es :=
    (foreruns_namedType (d.context .v2 false) .root t).ends.never_aborts
  have full : (d.context .v2 false).failFast = false := rfl
  have moves := local_namedType (d.context .v2 false) t
  obtain ⟨found, given, clean⟩ := catching_apart moves full never path
  refine ⟨found, ?_, clean⟩
  rw [item_eq_type among type, bind_apply, among.context, given]
  rfl

/-- The errors of types that stand from this position on, when each of them is read alone. -/
def errorsAlone (d : Dialect) (i : Nat) (ts : List Element) : List ReadError :=
  (ts.mapIdx fun j t => (errorsOf (SchemaReader.readNamedType ⟨d, .v2⟩ t false)).map
    (·.under (TreePath.root.index (i + j)))).flatten

theorem errorsAlone_cons (d : Dialect) (i : Nat) (t : Element) (ts : List Element) :
    errorsAlone d i (t :: ts) =
      (errorsOf (SchemaReader.readNamedType ⟨d, .v2⟩ t false)).map
        (·.under (TreePath.root.index i)) ++ errorsAlone d (i + 1) ts := by
  unfold errorsAlone
  rw [List.mapIdx_cons, List.flatten_cons]
  simp only [Nat.add_zero, Nat.add_assoc, Nat.add_comm 1]

theorem errorsAlone_eq_nil {ts : List Element} (i : Nat)
    (none : ∀ t ∈ ts, errorsOf (SchemaReader.readNamedType ⟨d, .v2⟩ t false) = []) :
    errorsAlone d i ts = [] := by
  induction ts generalizing i with
  | nil => rfl
  | cons t ts ih =>
    rw [errorsAlone_cons, none t List.mem_cons_self,
      ih (i + 1) fun t mem => none t (List.mem_cons_of_mem _ mem)]
    rfl

/-- The types of a document are read one after the other, and each as it is read alone. -/
theorem itemsFrom_types {ts : List Element} (among : AmongTypes d p)
    (types : ∀ t ∈ ts, isAnnotatedStruct t "type" = true) (i : Nat) :
    ∃ q, itemsFrom d i p ts [] = .ok q (errorsAlone d i ts) ∧ q.context = p.context ∧
      ((∀ t ∈ ts, errorsOf (SchemaReader.readNamedType ⟨d, .v2⟩ t false) = []) →
        ∃ found, List.Forall₂ (fun t a => SchemaReader.readNamedType ⟨d, .v2⟩ t false = .ok a)
            ts found ∧
          q.items = p.items ++ found.map .type) := by
  induction ts generalizing i p with
  | nil => exact ⟨p, rfl, rfl, fun _ => ⟨[], .nil, by simp⟩⟩
  | cons t ts ih =>
    obtain ⟨found, first, clean⟩ :=
      item_type among (types t List.mem_cons_self) (TreePath.root.index i)
    have next : AmongTypes d { p.add (found.toList.map .type) with place := .types } :=
      ⟨among.context, .inr rfl, among.going⟩
    obtain ⟨q, rest, context, others⟩ :=
      ih next (fun t mem => types t (List.mem_cons_of_mem _ mem)) (i + 1)
    refine ⟨q, ?_, context, fun none => ?_⟩
    · rw [itemsFrom, bind_apply, first]
      dsimp only
      rw [if_neg (Bool.not_eq_true _ ▸ next.going), steady_itemsFrom, rest, errorsAlone_cons]
      rfl
    · obtain ⟨a, alone, rfl⟩ := clean (none t List.mem_cons_self)
      obtain ⟨as, each, items⟩ := others fun t mem => none t (List.mem_cons_of_mem _ mem)
      refine ⟨a :: as, .cons alone each, ?_⟩
      rw [items]
      simp [Progress.add]

/-- What stands in front of the marker is passed over. -/
theorem itemsFrom_front {ctx : Context} {front : List Element}
    (before : ∀ e ∈ front, isMarker e = false) (i : Nat) (es : List Element) :
    itemsFrom d i ⟨ctx, .beforeMarker, [], false⟩ (front ++ es) =
      itemsFrom d (i + front.length) ⟨ctx, .beforeMarker, [], false⟩ es := by
  induction front generalizing i with
  | nil => rfl
  | cons e front ih =>
    have plain := before e List.mem_cons_self
    have passed : item d ⟨ctx, .beforeMarker, [], false⟩ (TreePath.root.index i) e =
        pure ⟨ctx, .beforeMarker, [], false⟩ := by
      rw [item, if_neg (by simp [plain])]
    rw [List.cons_append, itemsFrom, passed, pure_bind, if_neg (by simp),
      ih (fun e mem => before e (List.mem_cons_of_mem _ mem)), List.length_cons, Nat.add_assoc,
      Nat.add_comm 1]

end
end Reader

open Reader

/-- A document of version 2.0 with nothing but types behind its marker, read with every fault on
record, whatever words are reserved. Its errors are the errors of each type read alone, in order,
each below the position of its type; and if there are none, its items are the types read alone. -/
theorem SchemaReader.readSchema_types (d : Dialect) {front ts : List Element}
    (before : ∀ e ∈ front, isMarker e = false)
    (types : ∀ t ∈ ts, isAnnotatedStruct t "type" = true) :
    errorsOf (readSchema ⟨d, .v2⟩ (front ++ .symbol "$ion_schema_2_0" :: ts) false) =
        (ts.mapIdx fun i t => (errorsOf (readNamedType ⟨d, .v2⟩ t false)).map
          (·.under (TreePath.root.index (front.length + 1 + i)))).flatten ∧
      ((∀ t ∈ ts, errorsOf (readNamedType ⟨d, .v2⟩ t false) = []) →
        ∃ found,
          List.Forall₂ (fun t a => readNamedType ⟨d, .v2⟩ t false = .ok a) ts found ∧
          readSchema ⟨d, .v2⟩ (front ++ .symbol "$ion_schema_2_0" :: ts) false =
            .ok ⟨none, .v2, found.map .type⟩) := by
  have marked : (front ++ Element.symbol "$ion_schema_2_0" :: ts).any isMarker = true := by
    rw [List.any_append, List.any_cons, show isMarker (.symbol "$ion_schema_2_0") = true from rfl]
    simp
  have among : AmongTypes d ⟨d.context .v2 false, .beforeHeader, [], false⟩ := ⟨rfl, .inl rfl, rfl⟩
  obtain ⟨q, read, context, clean⟩ := itemsFrom_types among types (front.length + 1)
  have whole : readSchema ⟨d, .v2⟩ (front ++ .symbol "$ion_schema_2_0" :: ts) false =
      (finish .root (itemsFrom d (front.length + 1)
        ⟨d.context .v2 false, .beforeHeader, [], false⟩ ts)).map fun p =>
          ⟨none, p.version, p.items⟩ := by
    rw [readSchema, document, beginning, if_pos marked, itemsFrom_front before, Nat.zero_add]
    rfl
  rw [whole, finish, read]
  refine ⟨?_, fun none => ?_⟩
  · change _ = errorsAlone d (front.length + 1) ts
    cases errorsAlone d (front.length + 1) ts <;> rfl
  · obtain ⟨found, each, items⟩ := clean none
    have version : q.version = .v2 := congrArg Context.version context
    refine ⟨found, each, ?_⟩
    rw [errorsAlone_eq_nil _ none]
    change Except.ok (SchemaDocument.mk _ q.version q.items) = _
    rw [version, items]
    rfl

/-- `type::{ name: a }` -/
def plainType : Element := ⟨["type"], .struct [⟨"name", .symbol "a"⟩]⟩

/-- What is wrong with the second type is found behind the first, and two types without a fault are
read one as the other. -/
theorem readSchema_types_faulty :
    (∀ e ∈ [Element.string "note"], isMarker e = false) ∧
      (∀ t ∈ [plainType, faultyType], isAnnotatedStruct t "type" = true) ∧
      errorsOf (SchemaReader.standard.readSchema
          [.string "note", .symbol "$ion_schema_2_0", plainType, faultyType] false) =
        [⟨⟨[.index 3, .field "fields", .field "b", .field "type"]⟩, .notArgument (.int 5)⟩] ∧
      (∀ t ∈ [plainType, plainType],
        errorsOf (SchemaReader.standard.readNamedType t false) = []) ∧
      ∃ found, List.Forall₂ (fun t a => SchemaReader.standard.readNamedType t false = .ok a)
          [plainType, plainType] found ∧
        SchemaReader.standard.readSchema
            [.string "note", .symbol "$ion_schema_2_0", plainType, plainType] false =
          .ok ⟨none, .v2, found.map .type⟩ := by
  have before : ∀ e ∈ [Element.string "note"], isMarker e = false :=
    List.forall_mem_singleton.2 rfl
  have types : ∀ t ∈ [plainType, faultyType], isAnnotatedStruct t "type" = true :=
    List.forall_mem_cons.2 ⟨rfl, List.forall_mem_singleton.2 rfl⟩
  have plain : ∀ t ∈ [plainType, plainType], isAnnotatedStruct t "type" = true :=
    List.forall_mem_cons.2 ⟨rfl, List.forall_mem_singleton.2 rfl⟩
  have none : ∀ t ∈ [plainType, plainType],
      errorsOf (SchemaReader.standard.readNamedType t false) = [] :=
    List.forall_mem_cons.2 ⟨rfl, List.forall_mem_singleton.2 rfl⟩
  exact ⟨before, types, (SchemaReader.readSchema_types .standard before types).1, none,
    (SchemaReader.readSchema_types .standard before plain).2 none⟩

end Isl
