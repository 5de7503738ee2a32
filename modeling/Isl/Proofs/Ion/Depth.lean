import Isl.Proofs.Ion.RoundTrip
import Isl.Proofs.Ion.Turn
/-!
# The nesting limit

Of two readings that differ by the nesting limit, the one with the lower limit comes to the same if
what is read stays below it, and stops at the limit if it does not (`parseWithin_guard`). A reader
is led by another one (`Guards`) through single values, turns, containers and whole texts.
-/
namespace Isl.Ion

variable {α β γ : Type} {limit : Nat} {P : α → Prop} {Q : β → Prop}

/-! ## Readings side by side -/

/-- The first reading comes to the same as the second, and what is read fits; or it has stopped at
the limit, and what the second one reads, if anything, does not fit. -/
inductive Guarded (limit : Nat) (P : α → Prop) :
    Except SyntaxError α → Except SyntaxError α → Prop where
  | same {r : Except SyntaxError α} (fits : ∀ x, r = .ok x → P x) : Guarded limit P r r
  | cut {at_ : Nat} {r : Except SyntaxError α} (large : ∀ x, r = .ok x → ¬ P x) :
      Guarded limit P (.error ⟨at_, .tooDeep limit⟩) r

namespace Guarded

variable {a b : Except SyntaxError α}

theorem bind (guarded : Guarded limit P a b) {f g : α → Except SyntaxError β}
    (fits : ∀ x, P x → Guarded limit Q (f x) (g x))
    (large : ∀ x y, ¬ P x → g x = .ok y → ¬ Q y) : Guarded limit Q (a >>= f) (b >>= g) := by
  cases guarded with
  | same here =>
    cases a with
    | error e => exact .same nofun
    | ok x => exact fits x (here x rfl)
  | cut here =>
    refine .cut fun y read => ?_
    cases b with
    | error e => cases read
    | ok x => exact large x y (here x rfl) read

/-- What is made of a thing fits if and only if the thing does. -/
theorem bind_same (guarded : Guarded limit P a b) {f : α → Except SyntaxError β}
    (keeps : ∀ x y, f x = .ok y → (Q y ↔ P x)) : Guarded limit Q (a >>= f) (b >>= f) :=
  guarded.bind (fun x fits => .same fun y read => (keeps x y read).2 fits)
    fun x y large read fits => large ((keeps x y read).1 fits)

theorem map (guarded : Guarded limit P a b) {f : α → β} (keeps : ∀ x, Q (f x) ↔ P x) :
    Guarded limit Q (a.map f) (b.map f) := by
  have bound (r : Except SyntaxError α) : r.map f = r >>= fun x => .ok (f x) := by
    cases r <;> rfl
  rw [bound, bound]
  refine guarded.bind_same fun x y read => ?_
  cases read
  exact keeps x

/-- Both readings go on from the same place. -/
theorem after (r : Except SyntaxError γ) {f g : γ → Except SyntaxError β}
    (each : ∀ x, Guarded limit Q (f x) (g x)) : Guarded limit Q (r >>= f) (r >>= g) := by
  cases r with
  | error e => exact .same nofun
  | ok x => exact each x

end Guarded

/-- Readers that are guarded wherever they start. -/
def Guards (limit : Nat) (P : α → Prop) (r s : Reader α) : Prop :=
  ∀ c, Guarded limit (fun x => P x.1) (r c) (s c)

/-! ## Turns -/

/-- What a turn has found fits. -/
def Turn.Fits (P : α → Prop) (t : Turn α) : Prop := ∀ x, t.found = some x → P x

theorem separator_found {closing : Char} {missing : SyntaxFault} {x : α} {c d : Cursor}
    {t : Turn α} (read : separator closing missing x c = .ok (t, d)) : t.found = some x := by
  rw [separator] at read
  cases blank : skipBlank c with
  | error e => rw [blank] at read; cases read
  | ok c =>
    rw [blank] at read
    simp only [bind, Except.bind] at read
    split at read
    · cases read; rfl
    · split at read
      · cases read; rfl
      · cases read

namespace Guards

variable {r s : Reader α}

theorem separated (guards : Guards limit P r s) (closing : Char) (missing : SyntaxFault) :
    Guards limit (Turn.Fits P) (separated closing missing r) (separated closing missing s) :=
  fun c => (guards c).bind_same fun x y read => by
    simp [Turn.Fits, separator_found read]

theorem unlessEnded (guards : Guards limit P r s) {ended : Reader (Turn α)}
    (none : ∀ c x, ended c = .ok x → x.1.found = none) :
    Guards limit (Turn.Fits P) (unlessEnded ended r) (unlessEnded ended s) := by
  intro c
  rw [Ion.unlessEnded, Ion.unlessEnded]
  split
  · exact .same fun x read => by simp [Turn.Fits, none c x read]
  · exact (guards c).map fun x => by simp [Turn.Fits, Turn.found]

theorem unlessClosed {r s : Reader (Turn α)} (guards : Guards limit (Turn.Fits P) r s)
    (closing : Char) : Guards limit (Turn.Fits P) (unlessClosed closing r)
      (unlessClosed closing s) := by
  refine fun c => .after (skipBlank c) fun c => ?_
  split
  · exact .same (by rintro _ ⟨⟩; nofun)
  · exact guards c

end Guards

/-- What was found before the turns are taken is found in the end. -/
theorem mem_collect {turn : Reader (Turn α)} {spent : Cursor → List α → Reading (List α × Cursor)}
    (closes : ∀ c acc x, spent c acc = .ok x → x.1 = acc.reverse) {budget : Nat} {c : Cursor}
    {acc : List α} {x : List α × Cursor} (read : collect turn spent budget c acc = .ok x) :
    ∀ y ∈ acc, y ∈ x.1 := by
  induction budget generalizing c acc with
  | zero =>
    rw [closes c acc x read]
    simp
  | succ budget ih =>
    rw [collect] at read
    cases taken : turn c with
    | error e => rw [taken] at read; cases read
    | ok t =>
      obtain ⟨t, d⟩ := t
      rw [taken] at read
      cases t with
      | last found =>
        cases read
        simp +contextual
      | next y => exact fun z mem => ih read z (List.mem_cons_of_mem _ mem)

/-- Everything that is found in turns fits if it fits in each turn. -/
theorem Guards.collect {t u : Reader (Turn α)} (guards : Guards limit (Turn.Fits P) t u)
    {spent : Cursor → List α → Reading (List α × Cursor)}
    (closes : ∀ c acc x, spent c acc = .ok x → x.1 = acc.reverse) (budget : Nat) (c : Cursor)
    {acc : List α} (before : ∀ x ∈ acc, P x) :
    Guarded limit (fun x => ∀ y ∈ x.1, P y) (collect t spent budget c acc)
      (collect u spent budget c acc) := by
  induction budget generalizing c acc with
  | zero =>
    refine .same fun x read => ?_
    rw [closes c acc x read]
    simpa using before
  | succ budget ih =>
    refine (guards c).bind (fun x fits => ?_) fun x y large read fits => ?_
    · obtain ⟨t, d⟩ := x
      cases t with
      | last found =>
        refine .same ?_
        rintro _ ⟨⟩ y mem
        rcases List.mem_append.1 mem with mem | mem
        · exact before y (List.mem_reverse.1 mem)
        · exact fits y (Option.mem_toList.1 mem)
      | next y => exact ih d (List.forall_mem_cons.2 ⟨fits y rfl, before⟩)
    · obtain ⟨t, d⟩ := x
      refine large fun z found => ?_
      cases t with
      | last found' =>
        cases read
        exact fits z (List.mem_append_right _ (Option.mem_toList.2 found))
      | next z' =>
        cases found
        exact fits z (mem_collect closes read z (List.mem_cons_self ..))

/-! ## Values -/

/-- Whatever is read has a property. -/
def ReadsOnly (P : Value → Prop) (r : Reading (Value × Cursor)) : Prop := ∀ x, r = .ok x → P x.1

namespace ReadsOnly

variable {P : Value → Prop}

theorem error (e : SyntaxError) : ReadsOnly P (.error e) := nofun

theorem ok {v : Value} (has : P v) (c : Cursor) : ReadsOnly P (.ok (v, c)) := by
  rintro _ ⟨⟩
  exact has

theorem map (r : Reading α) {f : α → Value × Cursor} (has : ∀ x, P (f x).1) :
    ReadsOnly P (r.map f) := by
  cases r with
  | error e => exact error e
  | ok x => exact ok (has x) _

theorem after (r : Reading α) {f : α → Reading (Value × Cursor)} (each : ∀ x, ReadsOnly P (f x)) :
    ReadsOnly P (r >>= f) := by
  cases r with
  | error e => exact error e
  | ok x => exact each x

theorem bind {r : Reading (Value × Cursor)} (only : ReadsOnly P r)
    {f : Value × Cursor → Reading (Value × Cursor)}
    (each : ∀ v c, P v → ReadsOnly P (f (v, c))) : ReadsOnly P (r >>= f) := by
  cases r with
  | error e => exact error e
  | ok x => exact each x.1 x.2 (only x rfl)

end ReadsOnly

/-- Neither a value with others in it nor one that a numeric token stands for. -/
def Wordlike (v : Value) : Prop := v.isContainer = false ∧ v.isNumeral = false

variable {limits : Limits} {inSexp : Bool} {x : Value × Cursor}

theorem wordlike_identifierValue (c : Cursor) : ReadsOnly Wordlike (identifierValue c) := by
  unfold identifierValue
  dsimp only
  repeat' split
  all_goals first | exact .ok ⟨rfl, rfl⟩ _ | exact .error _

theorem scalar_numeral {cs : List Char} {v : Value} (read : numeral cs = .ok v) :
    v.isContainer = false := by
  unfold numeral at read
  dsimp only at read
  repeat' split at read
  all_goals first | cases read; rfl | cases read

theorem scalar_numeralValue (c : Cursor) : ReadsOnly (·.isContainer = false) (numeralValue c) := by
  unfold numeralValue
  dsimp only
  split
  · rename_i number
    exact .ok (scalar_numeral number) _
  · exact .error _

theorem wordlike_lob (limits : Limits) (c : Cursor) : ReadsOnly Wordlike (lob limits c) := by
  have content (c : Cursor) : ReadsOnly Wordlike (lobContent limits c) := by
    unfold lobContent
    split
    · exact .map _ fun _ => ⟨rfl, rfl⟩
    · split
      · exact .map _ fun _ => ⟨rfl, rfl⟩
      · split
        · exact .error _
        · split
          · exact .ok ⟨rfl, rfl⟩ _
          · exact .error _
  refine .after _ fun c => .bind (content c) fun v c wordlike => .after _ fun c => ?_
  split
  · exact .ok wordlike _
  · exact .error _

/-- A sign or none, and a digit: where a number is read. -/
def BeginsNumber (cs : List Char) : Prop :=
  ∃ negative d tail, cs = sign negative ++ d :: tail ∧ d.isDigit = true

theorem beginsNumber_of_head {x : Char} {cs : List Char}
    (number : x.isDigit = true ∨ x = '-' ∧ (cs.take 1).any Char.isDigit = true) :
    BeginsNumber (x :: cs) := by
  obtain digit | ⟨rfl, digit⟩ := number
  · exact ⟨false, x, cs, rfl, digit⟩
  · cases cs with
    | nil => cases digit
    | cons d tail => exact ⟨true, d, tail, rfl, by simpa using digit⟩

/-- A value without annotations is read as a container or as a number, or it is neither and is read
without a look at how containers are read. -/
theorem bareValue_cases (limits : Limits) (inSexp : Bool) (c : Cursor) :
    (∀ container, bareValue limits container inSexp c = container c) ∨
      (BeginsNumber c.rest ∧ ∀ container, bareValue limits container inSexp c = numeralValue c) ∨
      ∃ r, ReadsOnly Wordlike r ∧ ∀ container, bareValue limits container inSexp c = r := by
  obtain ⟨rest, n⟩ := c
  cases rest with
  | nil => exact .inr (.inr ⟨_, .error _, fun _ => rfl⟩)
  | cons x cs =>
    by_cases lobs : x = '\x7b' ∧ cs.head? = some '\x7b'
    · exact .inr (.inr ⟨_, wordlike_lob limits _, fun _ => if_pos lobs⟩)
    by_cases opens : x = '\x7b' ∨ x = '[' ∨ x = '('
    · exact .inl fun _ => (if_neg lobs).trans (if_pos opens)
    by_cases number : x.isDigit = true ∨ x = '-' ∧ (cs.take 1).any Char.isDigit = true
    · obtain ⟨negative, d, tail, front, digit⟩ := beginsNumber_of_head number
      refine .inr (.inl ⟨⟨negative, d, tail, front, digit⟩, fun container => ?_⟩)
      rw [front]
      exact bareValue_number negative digit tail n
    refine .inr (.inr ⟨_, ?_, fun _ => (if_neg lobs).trans (if_neg opens)⟩)
    repeat' split
    · exact .map _ fun _ => ⟨rfl, rfl⟩
    · exact .map _ fun _ => ⟨rfl, rfl⟩
    · exact .map _ fun _ => ⟨rfl, rfl⟩
    · exact .ok ⟨rfl, rfl⟩ _
    · exact .ok ⟨rfl, rfl⟩ _
    · exact wordlike_identifierValue _
    · exact .ok ⟨rfl, rfl⟩ _
    · exact .error _

/-! ## Containers -/

section

variable {room : Nat}

theorem Guards.bare {r s : Reader Value} (guards : Guards limit (·.height ≤ room) r s)
    (limits : Limits) (inSexp : Bool) :
    Guards limit (·.height ≤ room) (bareValue limits r inSexp) (bareValue limits s inSexp) := by
  intro c
  have low {v : Value} (scalar : v.isContainer = false) : v.height ≤ room :=
    (Value.height_scalar scalar).trans_le (Nat.zero_le room)
  obtain contained | ⟨-, number⟩ | ⟨read, wordlike, alike⟩ := bareValue_cases limits inSexp c
  · rw [contained, contained]
    exact guards c
  · rw [number, number]
    exact .same fun x ok => low (scalar_numeralValue c x ok)
  · rw [alike, alike]
    exact .same fun x ok => low (wordlike x ok).1

theorem Guards.annotated {r s : Reader Value} (guards : Guards limit (·.height ≤ room) r s)
    (limits : Limits) (inSexp : Bool) :
    Guards limit (·.height ≤ room) (annotatedValue limits r inSexp)
      (annotatedValue limits s inSexp) :=
  fun _ => .after _ fun named => (guards.bare limits inSexp named.2).bind_same fun x y read => by
    cases read
    simp only [Element.height]

theorem Guards.field {r s : Reader Element} (guards : Guards limit (·.height ≤ room) r s)
    (limits : Limits) :
    Guards limit (·.value.height ≤ room) (structField limits r) (structField limits s) := by
  refine fun c => .after _ fun named => .after _ fun c => ?_
  split
  · exact .same nofun
  · split
    · exact .same nofun
    · exact (guards _).map fun _ => .rfl

theorem Guards.listTurn {r s : Reader Element} (guards : Guards limit (·.height ≤ room) r s) :
    Guards limit (Turn.Fits (·.height ≤ room)) (listTurn r) (listTurn s) :=
  (guards.separated ']' .listSeparator).unlessClosed ']'

theorem Guards.sexpTurn {r s : Reader Element} (guards : Guards limit (·.height ≤ room) r s) :
    Guards limit (Turn.Fits (·.height ≤ room)) (sexpTurn r) (sexpTurn s) :=
  (guards.unlessEnded (by rintro _ _ ⟨⟩)).unlessClosed ')'

theorem Guards.structTurn {r s : Reader Element} (guards : Guards limit (·.height ≤ room) r s)
    (limits : Limits) :
    Guards limit (Turn.Fits (·.value.height ≤ room)) (structTurn limits r) (structTurn limits s) :=
  ((guards.field limits).separated '\x7d' .structSeparator).unlessClosed '\x7d'

theorem Guards.topTurn {r s : Reader Element} (guards : Guards limit (·.height ≤ room) r s) :
    Guards limit (Turn.Fits (·.height ≤ room)) (topTurn r) (topTurn s) := by
  refine fun c => .after (skipBlank c) fun c => guards.unlessEnded ?_ c
  rintro c _ ⟨⟩
  rfl

theorem height_list_le_iff {es : List Element} :
    (Value.list es).height ≤ room + 1 ↔ ∀ e ∈ es, e.height ≤ room := by
  rw [Value.height, Nat.add_le_add_iff_right, Element.heightAll_le_iff]

theorem height_sexp_le_iff {es : List Element} :
    (Value.sexp es).height ≤ room + 1 ↔ ∀ e ∈ es, e.height ≤ room := by
  rw [Value.height, Nat.add_le_add_iff_right, Element.heightAll_le_iff]

theorem height_struct_le_iff {fs : List Field} :
    (Value.struct fs).height ≤ room + 1 ↔ ∀ f ∈ fs, f.value.height ≤ room := by
  rw [Value.height, Nat.add_le_add_iff_right, Field.heightAll_le_iff]

end

/-- A container has a level of its own. -/
theorem height_container {room : Nat} {c : Cursor} (read : container limits room c = .ok x) :
    0 < x.1.height := by
  have mapped {α : Type} {r : Reading (α × Cursor)} {f : α → Value}
      (contained : ∀ y, 0 < (f y).height)
      (read : (r.map fun y => (f y.1, y.2)) = .ok x) : 0 < x.1.height := by
    cases r with
    | error e => cases read
    | ok y =>
      cases read
      exact contained y.1
  cases room with
  | zero => cases read
  | succ room =>
    rw [container] at read
    dsimp only at read
    split at read
    · exact mapped (fun es => by rw [Value.height]; exact Nat.succ_pos _) read
    · exact mapped (fun es => by rw [Value.height]; exact Nat.succ_pos _) read
    · exact mapped (fun fs => by rw [Value.height]; exact Nat.succ_pos _) read

/-- The limit on levels is all that tells the two readers apart. -/
theorem guards_container (n m budget more room : Nat) :
    Guards n (·.height ≤ room) (container ⟨n, budget⟩ room)
      (container ⟨m, budget⟩ (room + more)) := by
  induction room with
  | zero => exact fun c => .cut fun x read => Nat.not_le.2 (height_container read)
  | succ room ih =>
    intro c
    have item (inSexp : Bool) :
        Guards n (·.height ≤ room) (annotatedValue ⟨n, budget⟩ (container ⟨n, budget⟩ room) inSexp)
          (annotatedValue ⟨m, budget⟩ (container ⟨m, budget⟩ (room + more)) inSexp) :=
      ih.annotated ⟨n, budget⟩ inSexp
    rw [Nat.add_right_comm, container, container]
    dsimp only
    split
    · rw [listItems_eq, listItems_eq]
      exact ((item false).listTurn.collect (by rintro _ _ _ ⟨⟩) budget _
        (List.forall_mem_nil _)).map fun _ => height_list_le_iff
    · rw [sexpItems_eq, sexpItems_eq]
      exact ((item true).sexpTurn.collect (by rintro _ _ _ ⟨⟩) budget _
        (List.forall_mem_nil _)).map fun _ => height_sexp_le_iff
    · rw [structFields_eq, structFields_eq]
      exact (((item false).structTurn _).collect (by rintro _ _ _ ⟨⟩) budget _
        (List.forall_mem_nil _)).map fun _ => height_struct_le_iff

/-! ## Texts -/

theorem guarded_parseWithin {n m : Nat} (le : n ≤ m) (text : String) :
    Guarded n (fun es => ∀ e ∈ es, e.height ≤ n) (parseWithin n text) (parseWithin m text) := by
  obtain ⟨more, rfl⟩ := Nat.exists_eq_add_of_le le
  have item : Guards n (fun e : Element => e.height ≤ n) _ _ :=
    (guards_container n (n + more) (text.toList.length + 1) more n).annotated
      ⟨n, text.toList.length + 1⟩ false
  rw [parseWithin, parseWithin]
  dsimp only
  rw [topLevel_eq, topLevel_eq]
  refine (item.topTurn.collect ?_ _ _ (List.forall_mem_nil _)).map fun _ => .rfl
  rintro c acc _ ⟨⟩
  rfl

/-- **The nesting limit only guards.** Under a higher limit, what is read under a lower one is read
alike, and nests no deeper than that; what is read under the higher limit is read alike under the
lower one if it nests no deeper, and is refused for its nesting otherwise. -/
theorem parseWithin_guard (text : String) {n m : Nat} (le : n ≤ m) :
    (∀ es, parseWithin n text = .ok es →
      (∀ e ∈ es, e.height ≤ n) ∧ parseWithin m text = .ok es) ∧
      (∀ es, parseWithin m text = .ok es → (∀ e ∈ es, e.height ≤ n) →
        parseWithin n text = .ok es) ∧
      ∀ es, parseWithin m text = .ok es → (∃ e ∈ es, n < e.height) →
        ∃ at_, parseWithin n text = .error ⟨at_, .tooDeep n⟩ := by
  have guarded := guarded_parseWithin le text
  generalize parseWithin n text = low, parseWithin m text = high at guarded
  cases guarded with
  | same fits =>
    refine ⟨fun es read => ⟨fits es read, read⟩, fun es read _ => read, fun es read deep => ?_⟩
    obtain ⟨e, mem, deep⟩ := deep
    exact absurd (fits es read e mem) (Nat.not_le.2 deep)
  | cut large =>
    exact ⟨nofun, fun es read fits => absurd fits (large es read), fun _ _ _ => ⟨_, rfl⟩⟩

/-- Two levels, of which the inner one is refused where only one may be opened. -/
theorem parseWithin_guard_nested :
    let e : Element := .ofValue (.list [.ofValue (.sexp [])])
    parseWithin 1024 "[()]" = .ok [e] ∧ 2 ≤ 1024 ∧ parseWithin 2 "[()]" = .ok [e] ∧
      ∃ at_, parseWithin 1 "[()]" = .error ⟨at_, .tooDeep 1⟩ := by
  intro e
  have height : e.height = 2 := rfl
  have read : parseWithin 1024 "[()]" = .ok [e] :=
    parse_of_laid (.one e) (by simp [height, defaultDepth]) (by simp [e, Element.ofValue,
      Element.scalars, Value.scalars, Element.scalarsAll]) rfl
  have two : 2 ≤ 1024 := by decide
  obtain ⟨-, fits, -⟩ := parseWithin_guard "[()]" two
  obtain ⟨-, -, deep⟩ := parseWithin_guard "[()]" (show 1 ≤ 1024 by decide)
  exact ⟨read, two, fits [e] read (by simp [height]), deep [e] read ⟨e, by simp, by simp [height]⟩⟩

end Isl.Ion
