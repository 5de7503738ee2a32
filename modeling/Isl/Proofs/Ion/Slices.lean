import Isl.Proofs.Ion.Boundary
import Isl.Proofs.Ion.Symbol
/-!
# Texts are never cut inside a character

Reading a whole text by byte positions comes to an answer, the one that reading it by characters
comes to: no slice cuts a character in two and no loop goes on for ever. Faults are found between
characters (`parseWithin_sliced`).

* `Tracks`, `TracksOpen`, `Turns`: values, containers and turns that are read alike;
* `tracks_bareValue`, `Turns.collect`: one value, and the turns of one container;
* `tracks_container`: containers, by the levels that may still be opened.
-/
namespace Isl.Ion.Bytewise

variable {α β : Type} {s : Source} {cs tail : List Char} {b k m n : Nat} {c : Cursor} {x : Char}
  {fault : SyntaxFault}

/-! ## Values -/

theorem At.symbolToken? (here : At s (b + 1) n c) :
    Agrees s (Option.Rel (Lands s b)) (Bytewise.symbolToken? s n) (Ion.symbolToken? c) := by
  rw [Bytewise.symbolToken?, here.peek_eq, pure_bind, Ion.symbolToken?]
  cases front : c.rest with
  | nil => exact .ok .none
  | cons x tail =>
    simp only [List.head?_cons, here.startsWith_eq, pure_bind]
    refine .ite .rfl (fun quote => ?_) fun _ => .ite .rfl (fun ident => ?_) fun _ => .ok .none
    · refine (here.quoted (quote.1 ▸ front) (by decide)).map ?_
      rintro ⟨run, m⟩ ⟨-, c⟩ ⟨rfl, there⟩
      exact .ok (.some ⟨rfl, there⟩)
    · rw [here.run_eq, pure_bind]
      exact .ok (.some ⟨rfl, here.takeWhile_next (front ▸ isIdentChar_of_start ident)⟩)

theorem At.annotations {budget : Nat} (here : At s b n c) (enough : b ≤ k) (enough' : b ≤ budget)
    (acc : List String) :
    Agrees s (Lands s b) (Bytewise.annotations s k n acc) (Ion.annotations budget c acc) := by
  induction b generalizing n c k budget acc with
  | zero => exact absurd here.short (Nat.not_lt_zero _)
  | succ b ih =>
    cases k with
    | zero => cases enough
    | succ k =>
      cases budget with
      | zero => cases enough'
      | succ budget =>
        rw [Bytewise.annotations, Ion.annotations]
        refine here.skipBlank.bind fun start c there => ?_
        refine there.symbolToken?.bind ?_
        rintro _ _ (@⟨⟨name, m⟩, ⟨-, c⟩, rfl, behind⟩ | _)
        · refine behind.skipBlank.bind fun m c next => ?_
          rw [next.startsWith_eq, pure_bind]
          split
          · rename_i colons
            have following := next.drop (List.isPrefixOf_iff_prefix.1 colons)
            exact (ih following (Nat.le_of_succ_le_succ enough) (Nat.le_of_succ_le_succ enough')
              (name :: acc)).mono (Nat.le_succ b) here.within
          · exact .ok ⟨rfl, there⟩
        · exact .ok ⟨rfl, there⟩

/-- An identifier is in front. -/
theorem At.identifierValue (here : At s (b + 1) n c) (front : c.rest = x :: tail)
    (ident : isIdentStart x = true) :
    Agrees s (Lands s b) (Bytewise.identifierValue s n) (Ion.identifierValue c) := by
  have behind := here.takeWhile_next (p := isIdentChar) (front ▸ isIdentChar_of_start ident)
  rw [Bytewise.identifierValue, here.run_eq, pure_bind, Ion.identifierValue]
  generalize n + byteCount (c.rest.takeWhile isIdentChar) = m at behind
  generalize c.takeWhile isIdentChar = found at behind
  obtain ⟨name, c'⟩ := found
  simp only
  have word {v : Value} : Agrees s (Lands s b) (pure (v, m)) (.ok (v, c')) := .ok ⟨rfl, behind⟩
  refine .ite .rfl (fun _ => ?_) fun _ => .ite .rfl (fun _ => word) fun _ =>
    .ite .rfl (fun _ => word) fun _ => .ite .rfl (fun _ => word) fun _ => word
  rw [behind.peek_eq, pure_bind]
  by_cases dot : c'.rest.head? = some '.'
  · obtain ⟨tail, split⟩ := List.head?_eq_some_iff.1 dot
    have point : ['.'] <+: c'.rest := ⟨tail, split.symm⟩
    have typed : At s b (m + 1) (c'.drop 1) := behind.drop point
    have after := typed.takeWhile isIdentChar
    rw [if_pos dot, typed.run_eq, pure_bind, split]
    simp only
    cases IonType.ofName? (String.ofList ((c'.drop 1).takeWhile isIdentChar).1) with
    | none => exact here.fails
    | some t => exact .ok ⟨rfl, after⟩
  · rw [if_neg dot]
    split
    · rename_i split
      exact absurd (congrArg List.head? split) dot
    · exact word

/-- A number is in front. -/
theorem At.numeralValue (here : At s (b + 1) n c) (front : c.rest = x :: tail)
    (mark : isNumeralChar x = true) :
    Agrees s (Lands s b) (Bytewise.numeralValue s n) (Ion.numeralValue c) := by
  have behind := here.takeWhile_next (p := isNumeralChar) (front ▸ mark)
  rw [Bytewise.numeralValue, here.run_eq, pure_bind, Ion.numeralValue]
  simp only
  cases numeral (c.takeWhile isNumeralChar).1 with
  | error fault => exact here.fails
  | ok v => exact .ok ⟨rfl, behind⟩

theorem At.keywordFollows_eq (here : At s b n c) (keyword : List Char) :
    Bytewise.keywordFollows s n keyword = pure (Ion.keywordFollows c keyword) := by
  rw [Bytewise.keywordFollows, here.startsWith_eq, pure_bind, Ion.keywordFollows]
  cases starts : c.startsWith keyword with
  | false => rfl
  | true =>
    have behind := here.drop (List.isPrefixOf_iff_prefix.1 starts)
    rw [if_pos rfl, behind.peek_eq, pure_bind, Cursor.drop]
    cases c.rest.drop keyword.length <;> simp

theorem find?_lobEnd (cs acc : List Char) :
    (find? ['\x7d', '\x7d'] cs = none ∧ beforeLobEnd? cs acc = none) ∨
    ∃ run, run <+: cs ∧ find? ['\x7d', '\x7d'] cs = some (byteCount run) ∧
      beforeLobEnd? cs acc = some (acc.reverse ++ run) := by
  induction cs generalizing acc with
  | nil => exact .inl ⟨rfl, rfl⟩
  | cons x cs ih =>
    by_cases closed : ['\x7d', '\x7d'] <+: x :: cs
    · obtain ⟨tail, split⟩ := closed
      obtain ⟨rfl, rfl⟩ := List.cons.inj split
      refine .inr ⟨[], List.nil_prefix, rfl, ?_⟩
      rw [List.append_nil]
      rfl
    · have inside : beforeLobEnd? (x :: cs) acc = beforeLobEnd? cs (x :: acc) := by
        rw [beforeLobEnd?]
        rintro rest rfl rfl
        exact closed ⟨rest, rfl⟩
      rw [find?_cons closed, inside]
      obtain ⟨none, before⟩ | ⟨run, front, found, before⟩ := ih (x :: acc)
      · exact .inl ⟨by rw [none]; rfl, before⟩
      · refine .inr ⟨x :: run, (List.prefix_cons_inj x).2 front, ?_, ?_⟩
        · rw [found, byteCount_cons]
          rfl
        · rw [before, List.reverse_cons, List.append_assoc, List.singleton_append]

variable {limits : Limits}

section
variable (covered : s.budget ≤ limits.budget)
include covered

theorem At.lobContent (here : At s b n c) (enough : b < s.budget) :
    Agrees s (Lands s b) (Bytewise.lobContent s n) (Ion.lobContent limits c) := by
  have wide := here.mono (Nat.le_succ b) enough
  rw [Ion.lobContent]
  split
  · rename_i tail front
    rw [Bytewise.lobContent, here.peek_eq, pure_bind, front, if_pos (List.head?_cons ..)]
    exact (wide.quoted front (by decide)).value fun run => Value.clob (utf8Bytes run)
  rename_i other
  rw [Bytewise.lobContent, here.peek_eq, pure_bind, if_neg (head?_ne other), here.startsWith_eq,
    pure_bind]
  refine .ite .rfl (fun long => ?_) fun _ => ?_
  · have less := Nat.lt_of_lt_of_le enough covered
    exact (wide.longText long less).value fun run => Value.clob (utf8Bytes run)
  rw [here.slice_eq, pure_bind]
  obtain ⟨none, before⟩ | ⟨run, front, found, before⟩ := find?_lobEnd c.rest []
  · rw [none, before]
    exact here.fails
  · rw [found, before]
    simp only [here.span_eq front, pure_bind, List.reverse_nil, List.nil_append]
    cases Base64.decode ((utf8Bytes (run.filter (!Text.isBlank ·))).map UInt8.toNat) with
    | error fault => exact here.fails
    | ok bytes => exact .ok ⟨rfl, here.drop front⟩

/-- Two braces are in front. -/
theorem At.lob (here : At s (b + 1) n c) (front : ['\x7b', '\x7b'] <+: c.rest) :
    Agrees s (Lands s b) (Bytewise.lob s n) (Ion.lob limits c) := by
  have inside : At s b (n + 2) (c.drop 2) := here.drop_next front
  rw [Bytewise.lob, Ion.lob]
  refine inside.skipBlank.bind fun m c there => ?_
  refine (there.lobContent covered here.within).andThen fun v m c behind => ?_
  refine behind.skipBlank.bind fun m c last => ?_
  rw [last.startsWith_eq, pure_bind]
  split
  · rename_i closed
    exact .ok ⟨rfl, last.drop (List.isPrefixOf_iff_prefix.1 closed)⟩
  · exact last.fails

end

/-- A value is read alike by positions and by characters, wherever there is one left. -/
def Tracks (s : Source) (scan : Scanner α) (read : Reader α) : Prop :=
  ∀ ⦃b n c⦄, At s (b + 1) n c → Agrees s (Lands s b) (scan n) (read c)

/-- The same at an opening bracket. -/
def TracksOpen (s : Source) (scan : Scanner α) (read : Reader α) : Prop :=
  ∀ ⦃b n c x tail⦄, At s (b + 1) n c → c.rest = x :: tail →
    x = '\x7b' ∨ x = '[' ∨ x = '(' → Agrees s (Lands s b) (scan n) (read c)

theorem front_of_prefix {y : Char} {token : List Char} (front : c.rest = x :: tail)
    (starts : y :: token <+: c.rest) : x = y := by
  obtain ⟨rest, split⟩ := starts
  rw [front] at split
  exact (List.cons.inj split).1.symm

/-- What begins with a token begins with the character in front of it. -/
theorem startsWith_iff {y : Char} {token : List Char} (front : c.rest = x :: tail) :
    x = y ∧ c.startsWith (y :: token) = true ↔ c.startsWith (y :: token) = true :=
  and_iff_right_of_imp fun starts => front_of_prefix front (List.isPrefixOf_iff_prefix.1 starts)

theorem prefix_of_keywordFollows {keyword : List Char}
    (follows : Ion.keywordFollows c keyword = true) : keyword <+: c.rest :=
  List.isPrefixOf_iff_prefix.1 (Bool.and_eq_true_iff.1 follows).1

theorem keywordFollows_iff {y : Char} {keyword : List Char} (front : c.rest = x :: tail) :
    x = y ∧ Ion.keywordFollows c (y :: keyword) = true ↔
      Ion.keywordFollows c (y :: keyword) = true :=
  and_iff_right_of_imp fun follows => front_of_prefix front (prefix_of_keywordFollows follows)

theorem startsWith_singleton : c.startsWith [x] = true ↔ c.rest.head? = some x := by
  rw [Cursor.startsWith, List.isPrefixOf_iff_prefix, List.head?_eq_some_iff]
  exact exists_congr fun tail => eq_comm

variable {scan : Scanner Value} {read : Reader Value}

section
variable (covered : s.budget ≤ limits.budget)
include covered

theorem tracks_bareValue (open_ : TracksOpen s scan read) (inSexp : Bool) :
    Tracks s (Bytewise.bareValue s scan inSexp) (Ion.bareValue limits read inSexp) := by
  intro b n c here
  have enough : b < limits.budget := Nat.lt_of_lt_of_le here.within covered
  rw [Bytewise.bareValue, here.peek_eq, pure_bind, Ion.bareValue]
  cases front : c.rest with
  | nil => exact here.fails
  | cons x tail =>
    simp only [List.head?_cons, here.startsWith_eq, here.keywordFollows_eq, here.slice_eq,
      pure_bind]
    have lob_iff : x = '\x7b' ∧ c.startsWith ['\x7b', '\x7b'] = true ↔
        x = '\x7b' ∧ tail.head? = some '\x7b' := by
      rw [Cursor.startsWith, List.isPrefixOf_iff_prefix, front, pair_prefix_iff]
      simp
    have digit_iff : (x.isDigit = true ∨ x = '-' ∧ (c.rest[1]?.any Char.isDigit) = true) ↔
        x.isDigit = true ∨ x = '-' ∧ ((tail.take 1).any Char.isDigit) = true := by
      rw [front]
      cases tail <;> simp
    refine .ite lob_iff (fun lob => ?_) fun _ => ?_
    · exact here.lob covered (List.isPrefixOf_iff_prefix.1 lob.2)
    refine .ite .rfl (fun bracket => open_ here front bracket) fun _ => ?_
    refine .ite .rfl (fun string => ?_) fun _ => ?_
    · exact (here.quoted (string ▸ front) (by decide)).value (Value.string <| String.ofList ·)
    refine .ite (startsWith_iff front) (fun long => ?_) fun _ => ?_
    · exact (here.longText long.2 enough).value (Value.string <| String.ofList ·)
    refine .ite .rfl (fun symbol => ?_) fun _ => ?_
    · exact (here.quoted (symbol ▸ front) (by decide)).value (Value.symbol <| String.ofList ·)
    refine .ite (keywordFollows_iff front) (fun above => ?_) fun _ => ?_
    · exact .ok ⟨rfl, here.drop_next (prefix_of_keywordFollows above.2)⟩
    refine .ite (keywordFollows_iff front) (fun below => ?_) fun _ => ?_
    · exact .ok ⟨rfl, here.drop_next (prefix_of_keywordFollows below.2)⟩
    refine .ite digit_iff (fun number => here.numeralValue front ?_) fun _ => ?_
    · obtain digit | ⟨rfl, -⟩ := number
      · simp [isNumeralChar, Char.isAlphanum, digit]
      · decide
    refine .ite .rfl (fun ident => here.identifierValue front ident) fun _ => ?_
    refine .ite .rfl (fun operator => ?_) fun _ => here.fails
    rw [here.run_eq, pure_bind]
    exact .ok ⟨rfl, here.takeWhile_next (front ▸ operator.2)⟩

theorem tracks_annotatedValue (open_ : TracksOpen s scan read) (inSexp : Bool) :
    Tracks s (Bytewise.annotatedValue s scan inSexp) (Ion.annotatedValue limits read inSexp) := by
  intro b n c here
  rw [Bytewise.annotatedValue, Ion.annotatedValue]
  have enough := Nat.le_trans here.within covered
  refine (here.annotations here.within enough []).andThen fun names m c there => ?_
  refine (tracks_bareValue covered open_ inSexp there).andThen fun v m c behind => ?_
  exact .ok ⟨rfl, behind⟩

end

/-! ## Turns -/

/-- A turn that comes to the same. If another one follows, there is less left for it. -/
def Steps (s : Source) (b : Nat) (found : Turn α × Nat) (found' : Turn α × Cursor) : Prop :=
  found.1 = found'.1 ∧
    match found.1 with
    | .last _ => At s (b + 1) found.2 found'.2
    | .next _ => At s b found.2 found'.2

/-- Turns that are taken alike. -/
def Turns (s : Source) (scan : Scanner (Turn α)) (read : Reader (Turn α)) : Prop :=
  ∀ ⦃b n c⦄, At s (b + 1) n c → Agrees s (Steps s b) (scan n) (read c)

variable {closing : Char} {turn : Scanner (Turn α)} {turn' : Reader (Turn α)} {item : Scanner α}
  {item' : Reader α}

/-- Turns are taken alike to the end, and no budget is used up. -/
theorem Turns.collect {budget : Nat} {spent : Cursor → List α → Reading (List α × Cursor)}
    (turns : Turns s turn turn') (here : At s b n c) (enough : b ≤ k) (enough' : b ≤ budget)
    (acc : List α) :
    Agrees s (Lands s b) (Bytewise.collect turn k n acc)
      (Ion.collect turn' spent budget c acc) := by
  induction b generalizing n c k budget acc with
  | zero => exact absurd here.short (Nat.not_lt_zero _)
  | succ b ih =>
    cases k with
    | zero => cases enough
    | succ k =>
      cases budget with
      | zero => cases enough'
      | succ budget =>
        rw [Bytewise.collect, Ion.collect]
        refine (turns here).bind ?_
        rintro ⟨found, m⟩ ⟨-, c⟩ ⟨rfl, there⟩
        cases found with
        | last found => exact .ok ⟨rfl, there⟩
        | next x =>
          exact (ih there (Nat.le_of_succ_le_succ enough) (Nat.le_of_succ_le_succ enough')
            (x :: acc)).mono (Nat.le_succ b) here.within

theorem At.front (here : At s (b + 1) n c) (front : c.rest.head? = some x) :
    At s b (n + x.utf8Size) (c.drop 1) := by
  obtain ⟨tail, split⟩ := List.head?_eq_some_iff.1 front
  have first : [x] <+: c.rest := ⟨tail, split.symm⟩
  simpa using here.drop_next first

theorem Turns.unlessClosed (turns : Turns s turn turn') :
    Turns s (Bytewise.unlessClosed s closing turn) (Ion.unlessClosed closing turn') := by
  intro b n c here
  rw [Bytewise.unlessClosed, Ion.unlessClosed]
  refine here.skipBlank.bind fun m c there => ?_
  rw [there.peek_eq, pure_bind]
  split
  · rename_i closed
    exact .ok ⟨rfl, (there.front closed).mono (Nat.le_succ b) here.within⟩
  · exact turns there

theorem Tracks.separated (tracks : Tracks s item item') :
    Turns s (Bytewise.separated s closing fault item) (Ion.separated closing fault item') := by
  intro b n c here
  rw [Bytewise.separated, Ion.separated]
  refine (tracks here).andThen fun x m c behind => ?_
  simp only [Ion.separator]
  refine behind.skipBlank.bind fun m c there => ?_
  rw [there.peek_eq, pure_bind]
  have wide := there.mono (Nat.le_succ b) here.within
  refine .ite .rfl (fun comma => .ok ⟨rfl, wide.front comma⟩) fun _ => ?_
  refine .ite .rfl (fun closed => ?_) fun _ => there.fails
  exact .ok ⟨rfl, (wide.front closed).mono (Nat.le_succ b) here.within⟩

theorem Tracks.unlessEnded {ended : Scanner (Turn α)} {ended' : Reader (Turn α)}
    (ends : Turns s ended ended') (tracks : Tracks s item item') :
    Turns s (Bytewise.unlessEnded s ended item) (Ion.unlessEnded ended' item') := by
  intro b n c here
  rw [Bytewise.unlessEnded, here.peek_eq, pure_bind, Ion.unlessEnded]
  simp only [List.head?_eq_none_iff]
  split
  · exact ends here
  · refine (tracks here).map ?_
    rintro ⟨x, m⟩ ⟨-, c⟩ ⟨rfl, behind⟩
    exact .ok ⟨rfl, behind⟩

/-! ## Containers -/

section
variable (covered : s.budget ≤ limits.budget)
include covered

theorem tracks_fieldName : Tracks s (Bytewise.fieldName s) (Ion.fieldName limits) := by
  intro b n c here
  have enough : b < limits.budget := Nat.lt_of_lt_of_le here.within covered
  rw [Bytewise.fieldName, here.peek_eq, pure_bind, Ion.fieldName]
  cases front : c.rest with
  | nil => exact here.fails
  | cons x tail =>
    simp only [List.head?_cons, here.startsWith_eq, pure_bind]
    refine .ite .rfl (fun string => ?_) fun _ => ?_
    · exact (here.quoted (string ▸ front) (by decide)).value String.ofList
    refine .ite (startsWith_iff front) (fun long => ?_) fun _ => ?_
    · exact (here.longText long.2 enough).value String.ofList
    refine .ite .rfl (fun symbol => ?_) fun _ => ?_
    · exact (here.quoted (symbol ▸ front) (by decide)).value String.ofList
    refine .ite .rfl (fun ident => ?_) fun _ => here.fails
    rw [here.run_eq, pure_bind]
    exact .ok ⟨rfl, here.takeWhile_next (front ▸ isIdentChar_of_start ident)⟩

variable {scan : Scanner Element} {read : Reader Element}

theorem Tracks.structField (tracks : Tracks s scan read) :
    Tracks s (Bytewise.structField s scan) (Ion.structField limits read) := by
  intro b n c here
  rw [Bytewise.structField, Ion.structField]
  refine (tracks_fieldName covered here).andThen fun name m c behind => ?_
  refine behind.skipBlank.bind fun m c there => ?_
  rw [there.startsWith_eq, pure_bind]
  refine .ite .rfl (fun _ => there.fails) fun _ => ?_
  by_cases colon : c.startsWith [':'] = true
  · have front := startsWith_singleton.1 colon
    obtain ⟨tail, split⟩ := List.head?_eq_some_iff.1 front
    have inside := (there.mono (Nat.le_succ b) here.within).front front
    rw [colon, there.expect_eq split, pure_bind]
    exact (tracks (inside.mono (Nat.le_succ b) here.within)).value (Field.mk name)
  · have other : ¬c.rest.head? = some ':' := mt startsWith_singleton.2 colon
    rw [expect, there.peek_eq, pure_bind, if_neg other, eq_false_of_ne_true colon]
    exact there.fails

theorem Tracks.structTurn (tracks : Tracks s scan read) :
    Turns s (Bytewise.structTurn s scan) (Ion.structTurn limits read) :=
  (tracks.structField covered).separated.unlessClosed

omit covered

theorem Tracks.listTurn (tracks : Tracks s scan read) :
    Turns s (Bytewise.listTurn s scan) (Ion.listTurn read) :=
  tracks.separated.unlessClosed

theorem Tracks.sexpTurn (tracks : Tracks s scan read) :
    Turns s (Bytewise.sexpTurn s scan) (Ion.sexpTurn read) :=
  (tracks.unlessEnded fun _ _ _ here => here.fails).unlessClosed

theorem Tracks.topTurn (tracks : Tracks s scan read) :
    Turns s (Bytewise.topTurn s scan) (Ion.topTurn read) := by
  intro b n c here
  rw [Bytewise.topTurn, Ion.topTurn]
  refine here.skipBlank.bind fun m c there => ?_
  exact tracks.unlessEnded (fun _ _ _ here => .ok ⟨rfl, here⟩) there

include covered

theorem tracks_container (room : Nat) :
    TracksOpen s (Bytewise.container s limits.depth room) (Ion.container limits room) := by
  induction room with
  | zero => exact fun _ _ _ _ _ here _ _ => here.fails
  | succ room ih =>
    intro b n c x tail here front bracket
    have item (inSexp : Bool) : Tracks s _ (Ion.annotatedValue limits _ inSexp) :=
      tracks_annotatedValue covered ih inSexp
    have inside := here.front (x := x) (by rw [front, List.head?_cons])
    have enough := Nat.le_trans inside.within covered
    obtain rfl | rfl | rfl := bracket
    · simp only [Bytewise.container, Ion.container, here.peek_eq, pure_bind, front,
        List.head?_cons, here.expect_eq front, structFields_eq]
      exact (((item false).structTurn covered).collect inside inside.within enough []).value
        Value.struct
    · simp only [Bytewise.container, Ion.container, here.peek_eq, pure_bind, front,
        List.head?_cons, here.expect_eq front, listItems_eq]
      exact ((item false).listTurn.collect inside inside.within enough []).value Value.list
    · simp only [Bytewise.container, Ion.container, here.peek_eq, pure_bind, front,
        List.head?_cons, here.expect_eq front, sexpItems_eq]
      exact ((item true).sexpTurn.collect inside inside.within enough []).value Value.sexp

end

/-! ## Whole texts -/

theorem agrees_parseWithin (depth : Nat) (text : String) :
    Agrees ⟨text.toList, text.toList.length + 1⟩ Eq (Bytewise.parseWithin depth text.toList)
      (Ion.parseWithin depth text) := by
  let s : Source := ⟨text.toList, text.toList.length + 1⟩
  let limits : Limits := ⟨depth, text.toList.length + 1⟩
  have covered : s.budget ≤ limits.budget := Nat.le_refl _
  have start : At s s.budget 0 ⟨text.toList, 0⟩ :=
    ⟨rfl, by rw [behind?], Nat.lt_succ_self _, Nat.le_refl _⟩
  have item : Tracks s _ (Ion.annotatedValue limits _ false) :=
    tracks_annotatedValue covered (tracks_container covered depth) false
  rw [Bytewise.parseWithin, Ion.parseWithin, topLevel_eq]
  refine (item.topTurn.collect start (Nat.le_refl _) covered []).map ?_
  rintro ⟨es, m⟩ ⟨-, c⟩ ⟨rfl, -⟩
  exact .ok rfl

theorem Between.le_utf8ByteSize {text : String} (between : Between text.toList n) :
    n ≤ text.utf8ByteSize := by
  obtain ⟨before, after, split, rfl⟩ := between
  rw [← byteCount_toList, split, byteCount_append]
  exact Nat.le_add_right ..

/-- Numbers have no character of several bytes, so they can be cut anywhere. -/
theorem between_numeral {token : List Char} (numeric : ∀ c ∈ token, isNumeralChar c = true)
    (short : n ≤ byteCount token) : Between token n := by
  have narrow : ∀ c ∈ token, c.utf8Size = 1 := fun c mem =>
    Char.utf8Size_eq_one_iff.2 <| UInt32.le_iff_toNat_le.2 <|
      Nat.le_of_lt_succ (isNumeralChar_lt (numeric c mem))
  rw [byteCount_eq_length narrow] at short
  refine ⟨token.take n, token.drop n, (List.take_append_drop n token).symm, ?_⟩
  rw [byteCount_eq_length fun c mem => narrow c (List.mem_of_mem_take mem), List.length_take,
    Nat.min_eq_left short]

end Isl.Ion.Bytewise

namespace Isl.Ion

open Bytewise

/-- A text can be sliced between characters only, and reading it by positions, with all its slices,
comes to the answer of the parser, so it is never sliced anywhere else. The place of a fault is
between characters, too, and inside of a number every place is. -/
theorem parseWithin_sliced (depth : Nat) (text : String) :
    (∀ n cs, behind? text.toList n = some cs ↔
      ∃ before, text.toList = before ++ cs ∧ n = byteCount before) ∧
    (Bytewise.parseWithin depth text.toList).run = some (parseWithin depth text) ∧
    (∀ e, parseWithin depth text = .error e →
      Between text.toList e.offset ∧ e.offset ≤ text.utf8ByteSize) ∧
    ∀ token : List Char, (∀ c ∈ token, isNumeralChar c = true) →
      ∀ n ≤ byteCount token, Between token n := by
  have agrees := agrees_parseWithin depth text
  refine ⟨fun n cs => behind?_eq_some_iff, agrees.run_eq, fun e fails => ?_,
    fun token numeric n short => between_numeral numeric short⟩
  have between := (fails ▸ agrees).between
  exact ⟨between, between.le_utf8ByteSize⟩

/-- A bracket that closes nothing, behind a character of two bytes. -/
theorem parseWithin_sliced_comment :
    parseWithin 1 "/*é*/]" = .error ⟨6, .unexpectedCharacter ']'⟩ ∧
      Between "/*é*/]".toList 6 ∧ 6 ≤ "/*é*/]".utf8ByteSize ∧ Between ['1', 'd', '2'] 2 := by
  have fails : parseWithin 1 "/*é*/]" = .error ⟨6, .unexpectedCharacter ']'⟩ := rfl
  obtain ⟨-, -, faults, numbers⟩ := parseWithin_sliced 1 "/*é*/]"
  obtain ⟨between, inside⟩ := faults _ fails
  exact ⟨fails, between, inside, numbers _ (List.all_eq_true.1 (by decide)) 2 (by decide +kernel)⟩

end Isl.Ion
