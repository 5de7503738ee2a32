import Isl.Proofs.Ion.Scalar
import Isl.Proofs.Text.Base64
/-!
# Clobs and blobs that are read, or not

The bytes of a clob are written as the characters of their numbers, and read as the bytes of these
characters in UTF-8, which are the same below 128 alone. A blob is read back from its text in base
64, unless that begins with two slashes: behind the opening braces they are a line comment, and no
newline is left to end it.

* `Comes`: a reading comes to a result or is at fault;
* `reads_clob`, `clobBytes_ascii`, `small_of_length_clobBytes`: what a clob is read as;
* `comes_blob`: when a blob is read back.
-/
namespace Isl.Ion

variable {c : Char} {cs text rest run : List Char} {n : Nat} {limits : Limits}
  {container : Reader Value} {inSexp : Bool} {bytes : List UInt8}

/-- A reading comes to a result in front of what is left, or is at fault if there is none to come
to. -/
def Comes {α : Type} (result : Reading (α × Cursor)) (rest : List Char) : Option α → Prop
  | some a => ∃ n, result = .ok (a, ⟨rest, n⟩)
  | none => ∃ fault, result = .error fault

theorem Comes.bind {α β : Type} {result : Reading (α × Cursor)} {behind rest : List Char}
    {o : Option α} {next : α × Cursor → Reading (β × Cursor)} {f : α → Option β}
    (first : Comes result behind o)
    (others : ∀ a n, o = some a → Comes (next (a, ⟨behind, n⟩)) rest (f a)) :
    Comes (result >>= next) rest (o.bind f) := by
  cases o with
  | some a =>
    obtain ⟨n, rfl⟩ := first
    exact others a n rfl
  | none =>
    obtain ⟨fault, rfl⟩ := first
    exact ⟨fault, rfl⟩

theorem Comes.map {α β : Type} {result : Reading (α × Cursor)} {rest : List Char} {o : Option α}
    (h : Comes result rest o) (f : α → β) :
    Comes (result.map (Prod.map f id)) rest (o.map f) := by
  cases o with
  | some a =>
    obtain ⟨n, rfl⟩ := h
    exact ⟨n, rfl⟩
  | none =>
    obtain ⟨fault, rfl⟩ := h
    exact ⟨fault, rfl⟩

/-! ## Clobs -/

/-- The bytes that a clob is read as. -/
def clobBytes (bytes : List UInt8) : List UInt8 := utf8Bytes (bytes.map byteChar)

def clobChars (bytes : List UInt8) : List Char :=
  '\x7b' :: '\x7b' :: '"' :: (bytes.flatMap clobByteChars ++ ['"', '\x7d', '\x7d'])

theorem bareValue_lob (cs : List Char) (n : Nat) :
    bareValue limits container inSexp ⟨'\x7b' :: '\x7b' :: cs, n⟩ =
      lob limits ⟨'\x7b' :: '\x7b' :: cs, n⟩ := by
  simp [bareValue]

/-- A lob is its content between braces. -/
theorem lob_eq {v : Value} {m : Nat} (stays : Stays text)
    (content : lobContent limits ⟨text, n + 2⟩ = .ok (v, ⟨'\x7d' :: '\x7d' :: rest, m⟩)) :
    lob limits ⟨'\x7b' :: '\x7b' :: text, n⟩ = .ok (v, ⟨rest, m + 2⟩) := by
  have inside : Cursor.drop ⟨'\x7b' :: '\x7b' :: text, n⟩ 2 = ⟨text, n + 2⟩ := rfl
  have braces := skipBlank_mark '\x7d' ('\x7d' :: rest) (by decide) m
  simp only [lob, bind, Except.bind, inside, stays (n + 2), content, braces]
  rfl

theorem reads_clob (bytes : List UInt8) (rest : List Char) :
    Reads (bareValue limits container inSexp) (clobChars bytes) rest (.clob (clobBytes bytes)) := by
  intro n
  obtain ⟨m, read⟩ := quoted?_clob bytes ('\x7d' :: '\x7d' :: rest) (n + 2)
  have text : clobChars bytes ++ rest = '\x7b' :: '\x7b' ::
      '"' :: (bytes.flatMap clobByteChars ++ '"' :: '\x7d' :: '\x7d' :: rest) := by
    simp [clobChars]
  refine ⟨m + 2, ?_⟩
  rw [text, bareValue_lob]
  refine lob_eq (stays_cons _ (by decide) (by decide)) ?_
  simp only [lobContent, read]
  rfl

theorem lone_clob (bytes : List UInt8) (rest : List Char) : Lone (clobChars bytes ++ rest) :=
  lone_other (by decide) (by decide) (by decide) _

/-- A character of seven bits is one byte. -/
theorem utf8EncodeChar_ascii (small : c.toNat < 128) :
    String.utf8EncodeChar c = [UInt8.ofNat c.toNat] := by
  have least : c.val.toNat ≤ 127 := Nat.le_of_lt_succ small
  simp only [String.utf8EncodeChar, if_pos least]
  rfl

theorem utf8EncodeChar_byteChar {b : UInt8} (small : b.toNat < 128) :
    String.utf8EncodeChar (byteChar b) = [b] := by
  rw [utf8EncodeChar_ascii (by rwa [toNat_byteChar]), toNat_byteChar, UInt8.ofNat_toNat]

/-- The character of a byte with the high bit takes two bytes. -/
theorem length_utf8EncodeChar_byteChar {b : UInt8} (large : ¬b.toNat < 128) :
    (String.utf8EncodeChar (byteChar b)).length = 2 := by
  have bound := b.toNat_lt
  have number : (byteChar b).val.toNat = b.toNat := toNat_byteChar b
  have high : ¬(byteChar b).val.toNat ≤ 127 := by omega
  have low : (byteChar b).val.toNat ≤ 2047 := by omega
  simp only [String.utf8EncodeChar, if_neg high, if_pos low, List.length_cons, List.length_nil]

theorem clobBytes_cons (b : UInt8) (bytes : List UInt8) :
    clobBytes (b :: bytes) = String.utf8EncodeChar (byteChar b) ++ clobBytes bytes := by
  simp [clobBytes, utf8Bytes]

theorem clobBytes_ascii (small : ∀ b ∈ bytes, b.toNat < 128) : clobBytes bytes = bytes := by
  induction bytes with
  | nil => rfl
  | cons b bytes ih =>
    obtain ⟨first, others⟩ := List.forall_mem_cons.1 small
    rw [clobBytes_cons, utf8EncodeChar_byteChar first, ih others, List.singleton_append]

/-- No clob gets shorter, and one with a byte from 128 on gets longer. -/
theorem length_le_clobBytes (bytes : List UInt8) : bytes.length ≤ (clobBytes bytes).length := by
  induction bytes with
  | nil => exact Nat.zero_le _
  | cons b bytes ih =>
    have some : 1 ≤ (String.utf8EncodeChar (byteChar b)).length := by
      by_cases small : b.toNat < 128
      · rw [utf8EncodeChar_byteChar small, List.length_singleton]
      · rw [length_utf8EncodeChar_byteChar small]
        decide
    rw [clobBytes_cons, List.length_append, List.length_cons]
    omega

theorem small_of_length_clobBytes (same : (clobBytes bytes).length = bytes.length) :
    ∀ b ∈ bytes, b.toNat < 128 := by
  induction bytes with
  | nil => simp
  | cons b bytes ih =>
    have least := length_le_clobBytes bytes
    rw [clobBytes_cons, List.length_append, List.length_cons] at same
    have small : b.toNat < 128 := by
      by_contra large
      rw [length_utf8EncodeChar_byteChar large] at same
      omega
    rw [utf8EncodeChar_byteChar small, List.length_singleton] at same
    exact List.forall_mem_cons.2 ⟨small, ih (by omega)⟩

/-! ## Blobs -/

def blobChars (bytes : List UInt8) : List Char :=
  '\x7b' :: '\x7b' :: (Base64.encode bytes ++ ['\x7d', '\x7d'])

/-- A character that does not end a blob, is no blank and begins no text. -/
structure IsPlain (c : Char) : Prop where
  brace : c ≠ '\x7d'
  blank : Text.isBlank c = false
  double : c ≠ '"'
  quote : c ≠ '\''
  star : c ≠ '*'
  newline : c ≠ '\n'
  ascii : c.toNat < 128

theorem isPlain_of_mem_encode (h : c ∈ Base64.encode bytes) : IsPlain c := by
  obtain ⟨brace, blank, double, quote, star, newline, ascii⟩ := Base64.forall_mem_encode
    (P := fun c => c ≠ '\x7d' ∧ Text.isBlank c = false ∧ c ≠ '"' ∧ c ≠ '\'' ∧ c ≠ '*' ∧ c ≠ '\n' ∧
      c.toNat < 128) (by decide +kernel) (by decide) bytes c h
  exact ⟨brace, blank, double, quote, star, newline, ascii⟩

theorem newline_not_mem_encode (bytes : List UInt8) : '\n' ∉ Base64.encode bytes := fun mem =>
  (isPlain_of_mem_encode mem).newline rfl

theorem beforeLobEnd?_run (rest : List Char) (open_ : ∀ c ∈ run, c ≠ '\x7d') (acc : List Char) :
    beforeLobEnd? (run ++ '\x7d' :: '\x7d' :: rest) acc = some (acc.reverse ++ run) := by
  induction run generalizing acc with
  | nil => simp [beforeLobEnd?]
  | cons c run ih =>
    obtain ⟨first, others⟩ := List.forall_mem_cons.1 open_
    rw [List.cons_append, beforeLobEnd?, ih others]
    · simp
    · exact fun _ brace => absurd brace first

theorem utf8Bytes_ascii (small : ∀ c ∈ cs, c.toNat < 128) :
    (utf8Bytes cs).map UInt8.toNat = cs.map Char.toNat := by
  induction cs with
  | nil => rfl
  | cons c cs ih =>
    obtain ⟨first, others⟩ := List.forall_mem_cons.1 small
    have same : (UInt8.ofNat c.toNat).toNat = c.toNat := UInt8.toNat_ofNat_of_lt (by
      change c.toNat < 256
      omega)
    have tail := ih others
    simp only [utf8Bytes] at tail ⊢
    rw [List.flatMap_cons, utf8EncodeChar_ascii first, List.singleton_append, List.map_cons, same,
      tail, List.map_cons]

theorem stays_slash (slash : c ≠ '/') (star : c ≠ '*') (cs : List Char) : Stays ('/' :: c :: cs) :=
  stays_of_not_comment (by decide) (by simp [Ne.symm slash, Ne.symm star])

/-- Text in base 64 that opens no comment is not stepped over. -/
theorem blob_stays (closed : Base64.opensComment bytes = false) (rest : List Char) :
    Stays (Base64.encode bytes ++ '\x7d' :: '\x7d' :: rest) := by
  have plain : ∀ c ∈ Base64.encode bytes, IsPlain c := fun _ => isPlain_of_mem_encode
  have slashes := Base64.slashes_iff bytes
  rw [closed] at slashes
  cases split : Base64.encode bytes with
  | nil => exact stays_cons _ (by decide) (by decide)
  | cons c cs =>
    rw [split, List.forall_mem_cons] at plain
    obtain ⟨first, others⟩ := plain
    by_cases slash : c = '/'
    · subst slash
      cases cs with
      | nil => exact stays_slash (by decide) (by decide) _
      | cons d cs =>
        have other : d ≠ '/' := by
          rintro rfl
          rw [split] at slashes
          cases slashes
        exact stays_slash other (others d (List.mem_cons_self ..)).star _
    · exact stays_cons _ first.blank slash

theorem blobContent (bytes : List UInt8) (rest : List Char) (n : Nat) :
    ∃ m, lobContent limits ⟨Base64.encode bytes ++ '\x7d' :: '\x7d' :: rest, n⟩ =
      .ok (.blob bytes, ⟨'\x7d' :: '\x7d' :: rest, m⟩) := by
  have plain : ∀ c ∈ Base64.encode bytes, IsPlain c := fun _ => isPlain_of_mem_encode
  have run := beforeLobEnd?_run rest (fun c mem => (plain c mem).brace) []
  have unfiltered : (Base64.encode bytes).filter (!Text.isBlank ·) = Base64.encode bytes :=
    List.filter_eq_self.2 fun c mem => by rw [(plain c mem).blank]; rfl
  have ascii := utf8Bytes_ascii fun c mem => (plain c mem).ascii
  have decoded := Base64.decode_encode bytes
  obtain ⟨first, tail, split, quote, double⟩ : ∃ first tail,
      Base64.encode bytes ++ '\x7d' :: '\x7d' :: rest = first :: tail ∧ first ≠ '\'' ∧
        first ≠ '"' := by
    cases split : Base64.encode bytes with
    | nil => exact ⟨'\x7d', _, rfl, by decide, by decide⟩
    | cons c cs =>
      have front := plain c (split ▸ List.mem_cons_self ..)
      exact ⟨c, _, rfl, front.quote, front.double⟩
  have long : Cursor.startsWith ⟨first :: tail, n⟩ longQuote = false := startsWith_other n quote
  have dropped : Cursor.drop ⟨Base64.encode bytes ++ '\x7d' :: '\x7d' :: rest, n⟩
      (Base64.encode bytes).length =
        ⟨'\x7d' :: '\x7d' :: rest, n + byteCount (Base64.encode bytes)⟩ := by
    simp [Cursor.drop]
  refine ⟨n + byteCount (Base64.encode bytes), ?_⟩
  rw [split] at run dropped ⊢
  unfold lobContent
  dsimp only
  split
  · rename_i same
    exact absurd (List.cons.inj same).1 double
  · rw [long, run]
    simp [unfiltered, ascii, decoded, dropped]

/-- A blob is read back, unless it opens a comment that takes the rest of the text. -/
theorem comes_blob (bytes : List UInt8) (newline : Base64.opensComment bytes = true → '\n' ∉ rest)
    (n : Nat) :
    Comes (bareValue limits container inSexp ⟨blobChars bytes ++ rest, n⟩) rest
      (if Base64.opensComment bytes then none else some (.blob bytes)) := by
  have text : blobChars bytes ++ rest =
      '\x7b' :: '\x7b' :: (Base64.encode bytes ++ '\x7d' :: '\x7d' :: rest) := by
    simp [blobChars]
  split
  · rename_i opens
    obtain ⟨tail, split⟩ : ∃ tail, Base64.encode bytes = '/' :: '/' :: tail := by
      have slashes := Base64.slashes_iff bytes
      rw [opens, List.isPrefixOf_iff_prefix] at slashes
      obtain ⟨tail, split⟩ := slashes
      exact ⟨tail, split.symm⟩
    have short : '\n' ∉ tail ++ '\x7d' :: '\x7d' :: rest := by
      have inside : '\n' ∉ tail := fun mem =>
        newline_not_mem_encode bytes (split ▸ List.mem_cons_of_mem _ (List.mem_cons_of_mem _ mem))
      simp [inside, newline opens]
    obtain ⟨m, swallowed⟩ := skipBlank_swallowed short (n + 2)
    refine ⟨⟨m, .unterminatedBlob⟩, ?_⟩
    rw [text, bareValue_lob, split, List.cons_append, List.cons_append]
    generalize tail ++ '\x7d' :: '\x7d' :: rest = comment at swallowed
    have inside : Cursor.drop ⟨'\x7b' :: '\x7b' :: '/' :: '/' :: comment, n⟩ 2 =
      ⟨'/' :: '/' :: comment, n + 2⟩ := rfl
    simp only [lob, bind, Except.bind, inside, swallowed]
    rfl
  · rename_i closed
    obtain ⟨m, content⟩ := blobContent bytes rest (n + 2)
    refine ⟨m + 2, ?_⟩
    rw [text, bareValue_lob]
    exact lob_eq (blob_stays (by simpa using closed) rest) content

theorem lone_blob (bytes : List UInt8) (rest : List Char) : Lone (blobChars bytes ++ rest) :=
  lone_other (by decide) (by decide) (by decide) _

end Isl.Ion
