import Isl.Proofs.Ion.Levels
/-!
# Containers that are read back

The items of a container are read one after the other, each up to the comma, blank or bracket that
follows it. By induction on the levels that may still be opened, what is read of any value is what
`reread?` says of it.

* `comes_listItems`, `comes_sexpItems`, `comes_structFields`: one level, if the items are read;
* `itemReads_element`: all levels.
-/
namespace Isl.Ion

variable {text rest : List Char} {limits : Limits} {container : Reader Value} {inSexp : Bool}
  {item : Reader Element} {budget : Nat}

/-! ## Annotated values -/

theorem comes_annotated {o : Option Value} (names : List String)
    (value : ∀ n, Comes (bareValue limits container inSexp ⟨text ++ rest, n⟩) rest o)
    (lone : Lone (text ++ rest)) (enough : names.length < limits.budget) (n : Nat) :
    Comes (annotatedValue limits container inSexp ⟨annotationChars names ++ text ++ rest, n⟩) rest
      (o.map (⟨names, ·⟩)) := by
  obtain ⟨m, read⟩ := annotations_chars names lone n [] enough
  rw [annotatedValue, List.append_assoc, read, Option.map_eq_bind]
  exact (value m).bind fun v n' _ => ⟨n', rfl⟩

/-- Values are looked for behind any gap. -/
theorem annotatedValue_skip {c c' : Cursor} (skipped : skipBlank c = .ok c')
    (stays : skipBlank c' = .ok c') (enough : 0 < limits.budget) :
    annotatedValue limits container inSexp c = annotatedValue limits container inSexp c' := by
  obtain ⟨budget, same⟩ := Nat.exists_eq_add_one.2 enough
  simp only [annotatedValue, same, annotations_skip skipped stays]

/-- What a loop asks of the reader of its items: up to any boundary it takes the text of an item, as
long as what is left fits a bound. -/
structure ItemReads (item : Reader Element) (bound : Nat) (e : Element) : Prop where
  starts : Starts (elementChars e)
  newline : '\n' ∉ elementChars e
  comes : ∀ rest n, Boundary rest → (elementChars e ++ rest).length < bound →
    (e.reread? = none → '\n' ∉ rest) → Comes (item ⟨elementChars e ++ rest, n⟩) rest e.reread?

theorem itemsChars_cons (separator : List Char) (e e' : Element) (es : List Element) :
    itemsChars separator (e :: e' :: es) =
      elementChars e ++ (separator ++ itemsChars separator (e' :: es)) := by
  rw [itemsChars]
  simp

theorem newline_not_mem_separated (separator : List Char) {bound : Nat} (short : '\n' ∉ separator) :
    ∀ {es : List Element}, (∀ e ∈ es, ItemReads item bound e) → '\n' ∉ itemsChars separator es
  | [], _ => by simp [itemsChars]
  | [e], items => by simpa [itemsChars] using (items e (List.mem_cons_self ..)).newline
  | e :: e' :: es, items => by
    obtain ⟨first, others⟩ := List.forall_mem_cons.1 items
    have tail := newline_not_mem_separated separator short others
    simp [itemsChars_cons, first.newline, short, tail]

theorem starts_items {separator : List Char} {bound : Nat} {e : Element} {es : List Element}
    (first : ItemReads item bound e) (rest : List Char) :
    Starts (itemsChars separator (e :: es) ++ rest) := by
  cases es with
  | nil =>
    rw [itemsChars]
    exact first.starts.append rest
  | cons e' es =>
    rw [itemsChars_cons, List.append_assoc]
    exact first.starts.append _

/-! ## Lists -/

theorem listItems_skip {c c' : Cursor} (skipped : skipBlank c = .ok c')
    (stays : skipBlank c' = .ok c') (budget : Nat) (acc : List Element) :
    listItems item (budget + 1) c acc = listItems item (budget + 1) c' acc := by
  simp only [listItems, bind, Except.bind, skipped, stays]

theorem listItems_item (starts : Starts text) (budget n : Nat) (acc : List Element) :
    listItems item (budget + 1) ⟨text, n⟩ acc = (do
      let (e, c) ← item ⟨text, n⟩
      let c ← skipBlank c
      match c.rest with
      | ',' :: _ => listItems item budget (c.drop 1) (e :: acc)
      | ']' :: _ => .ok ((e :: acc).reverse, c.drop 1)
      | _ => c.fail .listSeparator) := by
  have stays := starts.stays n
  obtain ⟨x, tail, rfl, start⟩ := starts
  obtain ⟨-, -, -, -, bracket, -⟩ := plain_of_isStart start
  rw [listItems]
  simp only [bind, Except.bind, stays]
  split
  · rename_i split
    exact absurd (List.cons.inj split).1 bracket
  · rfl

section

variable {o : Option Element} {tail : List Char} {acc : List Element}

theorem comes_listItems_last (starts : Starts text) {n : Nat}
    (first : Comes (item ⟨text ++ ']' :: rest, n⟩) (']' :: rest) o) :
    Comes (listItems item (budget + 1) ⟨text ++ ']' :: rest, n⟩ acc) rest
      (o.bind fun x => some (acc.reverse ++ [x])) := by
  rw [listItems_item (starts.append _)]
  refine first.bind fun x m _ => ⟨m + 1, ?_⟩
  simp only [skipBlank_mark ']' rest (by decide), bind, Except.bind, List.reverse_cons]
  rfl

theorem comes_listItems_more {f : Element → Option (List Element)} (starts : Starts text)
    (behind : Starts tail) {n : Nat}
    (first : Comes (item ⟨text ++ ',' :: ' ' :: tail, n⟩) (',' :: ' ' :: tail) o)
    (others : ∀ x m, o = some x →
      Comes (listItems item (budget + 1) ⟨tail, m⟩ (x :: acc)) rest (f x)) :
    Comes (listItems item (budget + 2) ⟨text ++ ',' :: ' ' :: tail, n⟩ acc) rest (o.bind f) := by
  rw [listItems_item (starts.append _)]
  refine first.bind fun x m read => ?_
  obtain ⟨m', space⟩ := skipBlank_space behind (m + 1)
  simp only [skipBlank_mark ',' (' ' :: tail) (by decide), bind, Except.bind]
  change Comes (listItems item (budget + 1) ⟨' ' :: tail, m + 1⟩ (x :: acc)) rest _
  rw [listItems_skip space (behind.stays m')]
  exact others x m' read

end

/-- Items up to the closing bracket, which is all that an empty list has. -/
theorem comes_listItems {bound : Nat} (es : List Element) (items : ∀ e ∈ es, ItemReads item bound e)
    (newline : Element.rereadAll? es = none → '\n' ∉ rest) (acc : List Element)
    (enough : (itemsChars [',', ' '] es ++ ']' :: rest).length < budget)
    (fits : (itemsChars [',', ' '] es ++ ']' :: rest).length < bound) (n : Nat) :
    Comes (listItems item budget ⟨itemsChars [',', ' '] es ++ ']' :: rest, n⟩ acc) rest
      ((Element.rereadAll? es).map (acc.reverse ++ ·)) := by
  obtain ⟨budget, rfl⟩ := Nat.exists_eq_add_one.2 (Nat.zero_lt_of_lt enough)
  induction es generalizing acc budget n with
  | nil =>
    refine ⟨n + 1, ?_⟩
    simp only [itemsChars, List.nil_append, listItems, bind, Except.bind,
      skipBlank_mark ']' rest (by decide), List.append_nil]
    rfl
  | cons e es ih =>
    obtain ⟨first, others⟩ := List.forall_mem_cons.1 items
    rw [Element.rereadAll?, Option.map_bind]
    cases es with
    | nil =>
      rw [itemsChars] at fits ⊢
      have read := first.comes _ n (boundary_mark (by decide) rest) fits fun failed => by
        simpa using newline (by rw [Element.rereadAll?, failed]; rfl)
      simpa [Element.rereadAll?, Function.comp_def] using
        comes_listItems_last first.starts read
    | cons e' es =>
      generalize split : itemsChars [',', ' '] (e' :: es) ++ ']' :: rest = tail at ih
      have text : itemsChars [',', ' '] (e :: e' :: es) ++ ']' :: rest =
          elementChars e ++ ',' :: ' ' :: tail := by
        simp [itemsChars_cons, ← split]
      have starts : Starts tail := split ▸ starts_items (others e' (List.mem_cons_self ..)) _
      rw [text] at enough fits ⊢
      have read := first.comes _ n (boundary_mark (by decide) _) fits fun failed => by
        have last := newline (by rw [Element.rereadAll?, failed]; rfl)
        simp [← split, last, newline_not_mem_separated [',', ' '] (by decide) others]
      simp only [List.length_append, List.length_cons] at enough fits
      obtain ⟨budget, rfl⟩ := Nat.exists_eq_add_one.2 (show 0 < budget by omega)
      refine comes_listItems_more first.starts starts read fun x m read => ?_
      have next := ih others
        (fun failed => newline (by rw [Element.rereadAll?, read, failed]; rfl)) (x :: acc)
        (by omega) m budget (by omega)
      simpa [Function.comp_def] using next

/-! ## Expressions -/

theorem sexpItems_skip {c c' : Cursor} (skipped : skipBlank c = .ok c')
    (stays : skipBlank c' = .ok c') (budget : Nat) (acc : List Element) :
    sexpItems item (budget + 1) c acc = sexpItems item (budget + 1) c' acc := by
  simp only [sexpItems, bind, Except.bind, skipped, stays]

theorem sexpItems_item (starts : Starts text) (budget n : Nat) (acc : List Element) :
    sexpItems item (budget + 1) ⟨text, n⟩ acc = (do
      let (e, c) ← item ⟨text, n⟩
      sexpItems item budget c (e :: acc)) := by
  have stays := starts.stays n
  obtain ⟨x, tail, rfl, start⟩ := starts
  obtain ⟨-, -, -, -, -, paren, -⟩ := plain_of_isStart start
  rw [sexpItems]
  simp only [bind, Except.bind, stays]
  split
  · rename_i split
    exact absurd (List.cons.inj split).1 paren
  · rename_i split
    cases split
  · rfl

theorem sexpItems_close (budget n : Nat) (acc : List Element) :
    sexpItems item (budget + 1) ⟨')' :: rest, n⟩ acc = .ok (acc.reverse, ⟨rest, n + 1⟩) := by
  simp only [sexpItems, bind, Except.bind, skipBlank_mark ')' rest (by decide)]
  rfl

theorem comes_sexpItems {bound : Nat} (es : List Element) (items : ∀ e ∈ es, ItemReads item bound e)
    (newline : Element.rereadAll? es = none → '\n' ∉ rest) (acc : List Element)
    (enough : (itemsChars [' '] es ++ ')' :: rest).length < budget)
    (fits : (itemsChars [' '] es ++ ')' :: rest).length < bound) (n : Nat) :
    Comes (sexpItems item budget ⟨itemsChars [' '] es ++ ')' :: rest, n⟩ acc) rest
      ((Element.rereadAll? es).map (acc.reverse ++ ·)) := by
  obtain ⟨budget, rfl⟩ := Nat.exists_eq_add_one.2 (Nat.zero_lt_of_lt enough)
  induction es generalizing acc budget n with
  | nil =>
    refine ⟨n + 1, ?_⟩
    rw [itemsChars, List.nil_append, sexpItems_close]
    simp
  | cons e es ih =>
    obtain ⟨first, others⟩ := List.forall_mem_cons.1 items
    rw [Element.rereadAll?, Option.map_bind]
    cases es with
    | nil =>
      rw [itemsChars] at enough fits ⊢
      simp only [List.length_append, List.length_cons] at enough
      obtain ⟨budget, rfl⟩ := Nat.exists_eq_add_one.2 (show 0 < budget by omega)
      have read := first.comes _ n (boundary_mark (by decide) rest) fits fun failed => by
        simpa using newline (by rw [Element.rereadAll?, failed]; rfl)
      rw [sexpItems_item (first.starts.append _)]
      refine read.bind fun x m _ => ⟨m + 1, ?_⟩
      dsimp only
      rw [sexpItems_close, List.reverse_cons]
    | cons e' es =>
      generalize split : itemsChars [' '] (e' :: es) ++ ')' :: rest = tail at ih
      have text : itemsChars [' '] (e :: e' :: es) ++ ')' :: rest =
          elementChars e ++ ' ' :: tail := by
        simp [itemsChars_cons, ← split]
      have starts : Starts tail := split ▸ starts_items (others e' (List.mem_cons_self ..)) _
      rw [text] at enough fits ⊢
      have read := first.comes _ n (.of_starts gap_space starts) fits fun failed => by
        have last := newline (by rw [Element.rereadAll?, failed]; rfl)
        simp [← split, last, newline_not_mem_separated [' '] (by decide) others]
      simp only [List.length_append, List.length_cons] at enough fits
      obtain ⟨budget, rfl⟩ := Nat.exists_eq_add_one.2 (show 0 < budget by omega)
      rw [sexpItems_item (first.starts.append _)]
      refine read.bind fun x m read => ?_
      obtain ⟨m', space⟩ := skipBlank_space starts m
      have next := ih others
        (fun failed => newline (by rw [Element.rereadAll?, read, failed]; rfl)) (x :: acc)
        (by omega) m' budget (by omega)
      change Comes (sexpItems item (budget + 1) ⟨' ' :: tail, m⟩ (x :: acc)) rest _
      rw [sexpItems_skip space (starts.stays m')]
      simpa [Function.comp_def] using next

/-! ## Structs -/

theorem fieldName_symbol (limits : Limits) (name : String) (rest : List Char) (n : Nat) :
    ∃ m, fieldName limits ⟨symbolChars name ++ ':' :: rest, n⟩ = .ok (name, ⟨':' :: rest, m⟩) := by
  unfold symbolChars
  split
  · rename_i identifier
    obtain ⟨c, tail, split, start, run, -⟩ := isIdentifier_spec identifier
    obtain ⟨-, -, quote, double, -⟩ := plain_of_isIdentStart start
    have taken : Cursor.takeWhile ⟨name.toList ++ ':' :: rest, n⟩ isIdentChar = _ :=
      takeWhile_ident run (by simp; decide) n
    refine ⟨n + byteCount name.toList, ?_⟩
    rw [split] at taken ⊢
    simp only [List.cons_append] at taken ⊢
    have long : Cursor.startsWith ⟨c :: (tail ++ ':' :: rest), n⟩ longQuote = false :=
      startsWith_other n quote
    simp [fieldName, double, long, quote, start, taken, ← split, String.ofList_toList]
  · obtain ⟨m, read⟩ := quoted?_quoted isQuote_single name.toList (':' :: rest) n
    have short := not_longQuote name.toList n (show (':' :: rest).head? ≠ some '\'' by simp)
    refine ⟨m, ?_⟩
    simp only [quoted, List.cons_append, List.append_assoc, List.nil_append] at read short ⊢
    simp [fieldName, read, short, Except.map, String.ofList_toList]

theorem structFields_skip {c c' : Cursor} (skipped : skipBlank c = .ok c')
    (stays : skipBlank c' = .ok c') (budget : Nat) (acc : List Field) :
    structFields limits item (budget + 1) c acc = structFields limits item (budget + 1) c' acc := by
  simp only [structFields, bind, Except.bind, skipped, stays]

/-- A field is a name, a colon and an item. -/
theorem structFields_field (limits : Limits) (item : Reader Element) (name : String)
    (text : List Char) (budget n : Nat) (acc : List Field) :
    ∃ m, structFields limits item (budget + 1) ⟨symbolChars name ++ ':' :: ' ' :: text, n⟩ acc = (do
      let (e, c) ← item ⟨' ' :: text, m⟩
      let c ← skipBlank c
      match c.rest with
      | ',' :: _ => structFields limits item budget (c.drop 1) (⟨name, e⟩ :: acc)
      | '\x7d' :: _ => .ok ((⟨name, e⟩ :: acc).reverse, c.drop 1)
      | _ => c.fail .structSeparator) := by
  have starts := (starts_symbol name).append (':' :: ' ' :: text)
  have stays := starts.stays n
  obtain ⟨m, read⟩ := fieldName_symbol limits name (' ' :: text) n
  have colon := stays_cons (' ' :: text) (c := ':') (by decide) (by decide) m
  refine ⟨m + 1, ?_⟩
  obtain ⟨x, tail, split, start⟩ := starts
  obtain ⟨-, -, -, -, -, -, brace⟩ := plain_of_isStart start
  rw [split] at stays read ⊢
  rw [structFields]
  simp only [bind, Except.bind, stays]
  split
  · rename_i split
    exact absurd (List.cons.inj split).1 brace
  · rw [read]
    dsimp only
    rw [colon]
    rfl

theorem fieldsChars_cons (name : String) (e : Element) (f : Field) (fs : List Field) :
    fieldsChars (⟨name, e⟩ :: f :: fs) = symbolChars name ++ ':' :: ' ' ::
      (elementChars e ++ ',' :: ' ' :: fieldsChars (f :: fs)) := by
  rw [fieldsChars, fieldChars]
  · simp
  · simp

theorem fieldsChars_last (name : String) (e : Element) :
    fieldsChars [⟨name, e⟩] = symbolChars name ++ ':' :: ' ' :: elementChars e := by
  rw [fieldsChars, fieldChars]

theorem starts_fields (f : Field) (fs : List Field) (rest : List Char) :
    Starts (fieldsChars (f :: fs) ++ rest) := by
  obtain ⟨name, e⟩ := f
  cases fs with
  | nil =>
    rw [fieldsChars_last, List.append_assoc]
    exact (starts_symbol name).append _
  | cons f fs =>
    rw [fieldsChars_cons, List.append_assoc]
    exact (starts_symbol name).append _

/-- No brace follows the opening one of a struct. -/
theorem fieldsChars_ne_brace (fs : List Field) (rest : List Char) :
    (fieldsChars fs ++ '\x7d' :: rest).head? ≠ some '\x7b' := by
  match fs with
  | [] => simp [fieldsChars]
  | [⟨name, e⟩] =>
    rw [fieldsChars_last, List.append_assoc]
    exact symbolChars_ne_brace name _
  | ⟨name, e⟩ :: f :: fs =>
    rw [fieldsChars_cons, List.append_assoc]
    exact symbolChars_ne_brace name _

theorem newline_not_mem_fieldList {bound : Nat} :
    ∀ {fs : List Field}, (∀ f ∈ fs, ItemReads item bound f.value) → '\n' ∉ fieldsChars fs
  | [], _ => by simp [fieldsChars]
  | [⟨name, e⟩], items => by
    have last := (items _ (List.mem_cons_self ..)).newline
    simp [fieldsChars_last, newline_not_mem_symbol, last]
  | ⟨name, e⟩ :: f :: fs, items => by
    obtain ⟨first, others⟩ := List.forall_mem_cons.1 items
    have tail := newline_not_mem_fieldList others
    simp [fieldsChars_cons, newline_not_mem_symbol, first.newline, tail]

section

variable {o : Option Element} {tail : List Char} {acc : List Field}

theorem comes_structFields_last (limits : Limits) (name : String) (starts : Starts text)
    (skips : ∀ c c', skipBlank c = .ok c' → skipBlank c' = .ok c' → item c = item c')
    (first : ∀ n, Comes (item ⟨text ++ '\x7d' :: rest, n⟩) ('\x7d' :: rest) o) (n : Nat) :
    Comes (structFields limits item (budget + 1)
        ⟨symbolChars name ++ ':' :: ' ' :: (text ++ '\x7d' :: rest), n⟩ acc) rest
      (o.bind fun x => some (acc.reverse ++ [⟨name, x⟩])) := by
  obtain ⟨m, step⟩ :=
    structFields_field limits item name (text ++ '\x7d' :: rest) budget n acc
  obtain ⟨m', space⟩ := skipBlank_space (starts.append ('\x7d' :: rest)) m
  rw [step, skips _ _ space ((starts.append _).stays m')]
  refine (first m').bind fun x m _ => ⟨m + 1, ?_⟩
  simp only [skipBlank_mark '\x7d' rest (by decide), bind, Except.bind, List.reverse_cons]
  rfl

theorem comes_structFields_more {f : Element → Option (List Field)} (limits : Limits)
    (name : String) (starts : Starts text) (behind : Starts tail)
    (skips : ∀ c c', skipBlank c = .ok c' → skipBlank c' = .ok c' → item c = item c')
    (first : ∀ n, Comes (item ⟨text ++ ',' :: ' ' :: tail, n⟩) (',' :: ' ' :: tail) o)
    (others : ∀ x m, o = some x →
      Comes (structFields limits item (budget + 1) ⟨tail, m⟩ (⟨name, x⟩ :: acc)) rest (f x))
    (n : Nat) :
    Comes (structFields limits item (budget + 2)
        ⟨symbolChars name ++ ':' :: ' ' :: (text ++ ',' :: ' ' :: tail), n⟩ acc) rest
      (o.bind f) := by
  obtain ⟨m, step⟩ :=
    structFields_field limits item name (text ++ ',' :: ' ' :: tail) (budget + 1) n acc
  obtain ⟨m', space⟩ := skipBlank_space (starts.append (',' :: ' ' :: tail)) m
  rw [step, skips _ _ space ((starts.append _).stays m')]
  refine (first m').bind fun x m read => ?_
  obtain ⟨m', space⟩ := skipBlank_space behind (m + 1)
  simp only [skipBlank_mark ',' (' ' :: tail) (by decide), bind, Except.bind]
  change Comes (structFields limits item (budget + 1) ⟨' ' :: tail, m + 1⟩ (⟨name, x⟩ :: acc)) _ _
  rw [structFields_skip space (behind.stays m')]
  exact others x m' read

end

/-- Fields up to the closing brace, by a reader of items that steps over the blank behind a name. -/
theorem comes_structFields (limits : Limits) {bound : Nat} (fs : List Field)
    (items : ∀ f ∈ fs, ItemReads item bound f.value)
    (skips : ∀ c c', skipBlank c = .ok c' → skipBlank c' = .ok c' → item c = item c')
    (newline : Field.rereadAll? fs = none → '\n' ∉ rest) (acc : List Field)
    (enough : (fieldsChars fs ++ '\x7d' :: rest).length < budget)
    (fits : (fieldsChars fs ++ '\x7d' :: rest).length < bound) (n : Nat) :
    Comes (structFields limits item budget ⟨fieldsChars fs ++ '\x7d' :: rest, n⟩ acc) rest
      ((Field.rereadAll? fs).map (acc.reverse ++ ·)) := by
  obtain ⟨budget, rfl⟩ := Nat.exists_eq_add_one.2 (Nat.zero_lt_of_lt enough)
  induction fs generalizing acc budget n with
  | nil =>
    refine ⟨n + 1, ?_⟩
    simp only [fieldsChars, List.nil_append, structFields, bind, Except.bind,
      skipBlank_mark '\x7d' rest (by decide), List.append_nil]
    rfl
  | cons f fs ih =>
    obtain ⟨name, e⟩ := f
    obtain ⟨first, others⟩ := List.forall_mem_cons.1 items
    rw [Field.rereadAll?, Option.map_bind]
    cases fs with
    | nil =>
      have text : fieldsChars [⟨name, e⟩] ++ '\x7d' :: rest =
          symbolChars name ++ ':' :: ' ' :: (elementChars e ++ '\x7d' :: rest) := by
        simp [fieldsChars_last]
      rw [text] at fits ⊢
      simp only [List.length_append, List.length_cons] at fits
      have read : ∀ n, Comes (item ⟨elementChars e ++ '\x7d' :: rest, n⟩) _ e.reread? := fun n =>
        first.comes _ n (boundary_mark (by decide) rest) (by simp; omega) fun failed => by
          simpa using newline (by rw [Field.rereadAll?, failed]; rfl)
      simpa [Field.rereadAll?, Function.comp_def] using
        comes_structFields_last limits name first.starts skips read n
    | cons f' fs =>
      generalize split : fieldsChars (f' :: fs) ++ '\x7d' :: rest = tail at ih
      have text : fieldsChars (⟨name, e⟩ :: f' :: fs) ++ '\x7d' :: rest =
          symbolChars name ++ ':' :: ' ' :: (elementChars e ++ ',' :: ' ' :: tail) := by
        simp [fieldsChars_cons, ← split]
      have starts : Starts tail := split ▸ starts_fields f' fs _
      rw [text] at enough fits ⊢
      simp only [List.length_append, List.length_cons] at enough fits
      have read : ∀ n, Comes (item ⟨elementChars e ++ ',' :: ' ' :: tail, n⟩) _ e.reread? :=
        fun n => first.comes _ n (boundary_mark (by decide) _) (by simp; omega) fun failed => by
          have last := newline (by rw [Field.rereadAll?, failed]; rfl)
          simp [← split, last, newline_not_mem_fieldList others]
      obtain ⟨budget, rfl⟩ := Nat.exists_eq_add_one.2 (show 0 < budget by omega)
      refine comes_structFields_more limits name first.starts starts skips read
        (fun x m read => ?_) n
      have next := ih others
        (fun failed => newline (by rw [Field.rereadAll?, read, failed]; rfl)) (⟨name, x⟩ :: acc)
        (by omega) m budget (by omega)
      simpa [Function.comp_def] using next

/-! ## All levels -/

theorem scalars_of_scalar {v : Value} (scalar : v.isContainer = false) : v.scalars = [v] := by
  cases v with
  | list | sexp | struct => cases scalar
  | _ => simp [Value.scalars]

theorem legible_of_scalar {v : Value} (scalar : v.isContainer = false)
    (legible : ∀ s ∈ v.scalars, s.Legible) : v.Legible :=
  legible v (scalars_of_scalar scalar ▸ List.mem_singleton_self v)

theorem isContainer_cases {v : Value} (h : v.isContainer = true) :
    (∃ es, v = .list es) ∨ (∃ es, v = .sexp es) ∨ ∃ fs, v = .struct fs := by
  cases v with
  | list es => exact .inl ⟨es, rfl⟩
  | sexp es => exact .inr (.inl ⟨es, rfl⟩)
  | struct fs => exact .inr (.inr ⟨fs, rfl⟩)
  | _ => cases h

theorem lone_value {v : Value} (legible : ∀ s ∈ v.scalars, s.Legible) (boundary : Boundary rest) :
    Lone (valueChars v ++ rest) := by
  cases shape : v.isContainer with
  | false => exact lone_scalar shape (legible_of_scalar shape legible) boundary
  | true =>
    obtain ⟨es, rfl⟩ | ⟨es, rfl⟩ | ⟨fs, rfl⟩ := isContainer_cases shape
    all_goals exact lone_other (by decide) (by decide) (by decide) _

theorem starts_element (e : Element) (legible : ∀ s ∈ e.scalars, s.Legible) :
    Starts (elementChars e) := by
  obtain ⟨names, v⟩ := e
  rw [elementChars]
  cases names with
  | nil => simpa [annotationChars] using (lone_value legible boundary_nil).starts
  | cons name names =>
    rw [annotationChars, List.flatMap_cons, List.append_assoc, List.append_assoc]
    exact (starts_symbol name).append _

/-- What a value is read as, its annotated forms are. -/
theorem itemReads_annotated (names : List String) {v : Value}
    (legible : ∀ s ∈ v.scalars, s.Legible) (short : '\n' ∉ valueChars v)
    (value : ∀ rest n, Boundary rest → (valueChars v ++ rest).length < limits.budget →
      (v.reread? = none → '\n' ∉ rest) →
      Comes (bareValue limits container inSexp ⟨valueChars v ++ rest, n⟩) rest v.reread?) :
    ItemReads (annotatedValue limits container inSexp) limits.budget ⟨names, v⟩ := by
  refine ⟨starts_element _ legible, ?_, ?_⟩
  · simp [elementChars, newline_not_mem_annotations, short]
  intro rest n boundary fits newline
  have count := length_annotationChars names
  simp only [elementChars, List.length_append] at fits
  rw [Element.reread?] at newline ⊢
  refine comes_annotated names (fun m => value rest m boundary ?_ ?_) (lone_value legible boundary)
    (by omega) n
  · rw [List.length_append]
    omega
  · intro failed
    exact newline (by rw [failed]; rfl)

theorem itemReads_scalar (names : List String) {v : Value} (scalar : v.isContainer = false)
    (legible : ∀ s ∈ v.scalars, s.Legible) (inSexp : Bool) :
    ItemReads (annotatedValue limits container inSexp) limits.budget ⟨names, v⟩ :=
  have readable := legible_of_scalar scalar legible
  itemReads_annotated names legible (newline_not_mem_scalar scalar readable)
    fun _ n boundary _ newline => comes_scalar scalar readable boundary newline n

/-- What the items of a container are read as, the container is. -/
theorem comes_list {room : Nat} (es : List Element)
    (items : ∀ e ∈ es, ItemReads (annotatedValue limits (Ion.container limits room) false)
      limits.budget e) (newline : (Value.list es).reread? = none → '\n' ∉ rest)
    (fits : (valueChars (.list es) ++ rest).length < limits.budget) (n : Nat) :
    Comes (bareValue limits (Ion.container limits (room + 1)) inSexp
      ⟨valueChars (.list es) ++ rest, n⟩) rest (Value.list es).reread? := by
  have text : valueChars (.list es) ++ rest = '[' :: (itemsChars [',', ' '] es ++ ']' :: rest) := by
    simp [valueChars]
  rw [text, List.length_cons] at fits
  rw [Value.reread?] at newline ⊢
  have read := comes_listItems es items (fun failed => newline (by rw [failed]; rfl)) []
    (show (itemsChars [',', ' '] es ++ ']' :: rest).length < limits.budget by omega)
    (by omega) (n + 1)
  have opened : bareValue limits (Ion.container limits (room + 1)) inSexp
      ⟨'[' :: (itemsChars [',', ' '] es ++ ']' :: rest), n⟩ =
      (listItems (annotatedValue limits (Ion.container limits room) false) limits.budget
        ⟨itemsChars [',', ' '] es ++ ']' :: rest, n + 1⟩ []).map (Prod.map Value.list id) := by
    simp [bareValue, Ion.container]
    rfl
  rw [text, opened]
  simpa using read.map Value.list

theorem comes_sexp {room : Nat} (es : List Element)
    (items : ∀ e ∈ es, ItemReads (annotatedValue limits (Ion.container limits room) true)
      limits.budget e) (newline : (Value.sexp es).reread? = none → '\n' ∉ rest)
    (fits : (valueChars (.sexp es) ++ rest).length < limits.budget) (n : Nat) :
    Comes (bareValue limits (Ion.container limits (room + 1)) inSexp
      ⟨valueChars (.sexp es) ++ rest, n⟩) rest (Value.sexp es).reread? := by
  have text : valueChars (.sexp es) ++ rest = '(' :: (itemsChars [' '] es ++ ')' :: rest) := by
    simp [valueChars]
  rw [text, List.length_cons] at fits
  rw [Value.reread?] at newline ⊢
  have read := comes_sexpItems es items (fun failed => newline (by rw [failed]; rfl)) []
    (show (itemsChars [' '] es ++ ')' :: rest).length < limits.budget by omega)
    (by omega) (n + 1)
  have opened : bareValue limits (Ion.container limits (room + 1)) inSexp
      ⟨'(' :: (itemsChars [' '] es ++ ')' :: rest), n⟩ =
      (sexpItems (annotatedValue limits (Ion.container limits room) true) limits.budget
        ⟨itemsChars [' '] es ++ ')' :: rest, n + 1⟩ []).map (Prod.map Value.sexp id) := by
    simp [bareValue, Ion.container]
    rfl
  rw [text, opened]
  simpa using read.map Value.sexp

theorem comes_struct {room : Nat} (fs : List Field)
    (items : ∀ f ∈ fs, ItemReads (annotatedValue limits (Ion.container limits room) false)
      limits.budget f.value) (newline : (Value.struct fs).reread? = none → '\n' ∉ rest)
    (fits : (valueChars (.struct fs) ++ rest).length < limits.budget) (n : Nat) :
    Comes (bareValue limits (Ion.container limits (room + 1)) inSexp
      ⟨valueChars (.struct fs) ++ rest, n⟩) rest (Value.struct fs).reread? := by
  have text : valueChars (.struct fs) ++ rest = '\x7b' :: (fieldsChars fs ++ '\x7d' :: rest) := by
    simp [valueChars]
  rw [text, List.length_cons] at fits
  rw [Value.reread?] at newline ⊢
  have read := comes_structFields limits fs items
    (fun c c' skipped stays => annotatedValue_skip skipped stays (by omega))
    (fun failed => newline (by rw [failed]; rfl)) []
    (show (fieldsChars fs ++ '\x7d' :: rest).length < limits.budget by omega) (by omega) (n + 1)
  have single := fieldsChars_ne_brace fs rest
  have opened : bareValue limits (Ion.container limits (room + 1)) inSexp
      ⟨'\x7b' :: (fieldsChars fs ++ '\x7d' :: rest), n⟩ =
      (structFields limits (annotatedValue limits (Ion.container limits room) false) limits.budget
        ⟨fieldsChars fs ++ '\x7d' :: rest, n + 1⟩ []).map (Prod.map Value.struct id) := by
    simp only [bareValue, single, and_false, if_false, true_or, if_true, Ion.container]
    rfl
  rw [text, opened]
  simpa using read.map Value.struct

/-- As long as enough levels may be opened, a value is read as what `reread?` says. -/
theorem itemReads_element (limits : Limits) (room : Nat) (e : Element) (low : e.height ≤ room)
    (legible : ∀ s ∈ e.scalars, s.Legible) (inSexp : Bool) :
    ItemReads (annotatedValue limits (Ion.container limits room) inSexp) limits.budget e := by
  induction room generalizing e inSexp with
  | zero =>
    obtain ⟨names, v⟩ := e
    cases shape : v.isContainer with
    | false => exact itemReads_scalar names shape legible inSexp
    | true =>
      obtain ⟨es, rfl⟩ | ⟨es, rfl⟩ | ⟨fs, rfl⟩ := isContainer_cases shape
      all_goals simp [Element.height, Value.height] at low
  | succ room ih =>
    obtain ⟨names, v⟩ := e
    cases shape : v.isContainer with
    | false => exact itemReads_scalar names shape legible inSexp
    | true =>
      obtain ⟨es, rfl⟩ | ⟨es, rfl⟩ | ⟨fs, rfl⟩ := isContainer_cases shape
      · have items : ∀ e ∈ es, _ := fun e mem =>
          ih e (Element.heightAll_le_iff.1 (Nat.le_of_succ_le_succ low) e mem)
            (fun s inside => legible s (by
              rw [Element.scalars, Value.scalars, Element.scalarsAll_eq, List.mem_flatMap]
              exact ⟨e, mem, inside⟩)) false
        refine itemReads_annotated names legible ?_ fun rest n _ fits newline =>
          comes_list es items newline fits n
        simp [valueChars, newline_not_mem_separated [',', ' '] (by decide) items]
      · have items : ∀ e ∈ es, _ := fun e mem =>
          ih e (Element.heightAll_le_iff.1 (Nat.le_of_succ_le_succ low) e mem)
            (fun s inside => legible s (by
              rw [Element.scalars, Value.scalars, Element.scalarsAll_eq, List.mem_flatMap]
              exact ⟨e, mem, inside⟩)) true
        refine itemReads_annotated names legible ?_ fun rest n _ fits newline =>
          comes_sexp es items newline fits n
        simp [valueChars, newline_not_mem_separated [' '] (by decide) items]
      · have items : ∀ f ∈ fs, _ := fun f mem =>
          ih f.value (Field.heightAll_le_iff.1 (Nat.le_of_succ_le_succ low) f mem)
            (fun s inside => legible s (by
              rw [Element.scalars, Value.scalars, Field.scalarsAll_eq, List.mem_flatMap]
              exact ⟨f, mem, inside⟩)) false
        refine itemReads_annotated names legible ?_ fun rest n _ fits newline =>
          comes_struct fs items newline fits n
        simp [valueChars, newline_not_mem_fieldList items]

end Isl.Ion
