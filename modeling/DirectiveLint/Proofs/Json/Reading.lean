import DirectiveLint.Json.Document
import DirectiveLint.Json.Layout
import DirectiveLint.Proofs.Json.Ordered
import DirectiveLint.Proofs.Text.Pieces
import DirectiveLint.Proofs.Validator.Numeral

/-!
# Reading what was laid out

`Json.Document.Holds d v` says that a document, as it is read, holds a value in which all numbers
are natural: its strings stand for the texts, and arrays and objects hold their items and members
in order.  The layout of such a value is read as a document that holds it
(`Json.Document.exists_read?_layout`).
-/

namespace DirectiveLint

namespace Json

variable {t u : Text} {v : Json} {d : Document} {tokens tokens' : List Token}

/-- All numbers in a value are natural. -/
inductive Natural : Json → Prop where
  | null : Natural null
  | bool (b : Bool) : Natural (bool b)
  | number (n : Nat) : Natural (ofNat n)
  | string (t : Text) : Natural (string t)
  | array {items : List Json} (h : ∀ v ∈ items, Natural v) : Natural (array items)
  | object {members : List (Text × Json)} (h : ∀ m ∈ members, Natural m.2) :
    Natural (object members)

/-- A document holds a value: what it was written with denotes the parts of the value. -/
inductive Document.Holds : Document → Json → Prop where
  | null : Holds null .null
  | bool (b : Bool) : Holds (bool b) (.bool b)
  /-- A number is written in digits, without sign, fraction and exponent. -/
  | number {whole : Text} {n : Nat} (h : DirectiveLint.Numeral whole n) :
    Holds (number ⟨false, whole, [], none⟩) (.ofNat n)
  | string {pieces : List Piece} {t : Text} (h : textOfPieces? pieces = some t) :
    Holds (string pieces) (.string t)
  | array {items : List Document} {vs : List Json} (h : items.Forall₂ Holds vs) :
    Holds (array items) (.array vs)
  | object {members : List (List Piece × Document)} {ms : List (Text × Json)}
      (hkeys : members.map (textOfPieces? ·.1) = ms.map (some ·.1))
      (h : (members.map Prod.snd).Forall₂ Holds (ms.map Prod.snd)) :
    Holds (object members) (.object ms)

/-! ### Strings -/

theorem textOfPieces?_char (c : Char) (ps : List Piece) :
  textOfPieces? (.char c :: ps) = (textOfPieces? ps).map (c :: ·)
  := rfl

/-- A code unit that is no half of a pair stands for a character, whatever is behind it. -/
theorem textOfPieces?_codeUnit {n : Nat} (h : n < 0xD800) (ps : List Piece) :
  textOfPieces? (.codeUnit n :: ps) = (textOfPieces? ps).map (Char.ofNat n :: ·)
  := by
  have hhigh : isHighHalf n = false := by
    rw [isHighHalf, decide_eq_false (by omega), Bool.false_and]
  have hlow : isLowHalf n = false := by
    rw [isLowHalf, decide_eq_false (by omega), Bool.false_and]
  match ps with
  | [] => simp [textOfPieces?, hhigh, hlow]
  | .char c :: ps => simp [textOfPieces?, hhigh, hlow, Function.comp_def]
  | .codeUnit m :: ps => simp [textOfPieces?, hhigh, hlow]

theorem hexQuad?_hexPair :
  ∀ n < 0x20, hexQuad? '0' '0' (Nat.digitChar (n / 16)) (Nat.digitChar (n % 16)) = some n
  := by decide

theorem readPieces_escape {c e : Char} (he : e ≠ 'u') (hsimple : simpleEscape? e = some c)
    (t : Text) :
  readPieces ('\\' :: e :: t)
    = (readPieces t).map fun read => (.char c :: read.1, read.2)
  := by
  rw [readPieces.eq_def]
  split
  · contradiction
  · next heq => cases heq
  · next heq =>
    obtain ⟨rfl, -⟩ := List.cons.inj (List.cons.inj heq).2
    contradiction
  · next heq =>
    obtain ⟨rfl, rfl⟩ := List.cons.inj (List.cons.inj heq).2
    rw [hsimple]
    cases readPieces t <;> rfl
  · next hne heq =>
    obtain ⟨rfl, rfl⟩ := List.cons.inj heq
    exact absurd rfl (hne e t rfl)

theorem readPieces_control {c : Char} (h : c.toNat < 0x20) (t : Text) :
  readPieces ('\\' :: 'u' :: '0' :: '0' :: (hexPair c.toNat ++ t))
    = (readPieces t).map fun read => (.codeUnit c.toNat :: read.1, read.2)
  := by
  have hread : readPieces ('\\' :: 'u' :: '0' :: '0' :: (hexPair c.toNat ++ t))
      = (hexQuad? '0' '0' (Nat.digitChar (c.toNat / 16)) (Nat.digitChar (c.toNat % 16))).bind
        fun n => (readPieces t).bind fun read => some (.codeUnit n :: read.1, read.2) := rfl
  rw [hread, hexQuad?_hexPair c.toNat h]
  cases readPieces t <;> rfl

theorem readPieces_plain {c : Char} (hquote : c ≠ '"') (hbackslash : c ≠ '\\')
    (h : ¬ c.toNat < 0x20) (t : Text) :
  readPieces (c :: t) = (readPieces t).map fun read => (.char c :: read.1, read.2)
  := by
  rw [readPieces.eq_def]
  split
  · contradiction
  · next heq => exact absurd (List.cons.inj heq).1 hquote
  · next heq => exact absurd (List.cons.inj heq).1 hbackslash
  · next heq => exact absurd (List.cons.inj heq).1 hbackslash
  · next heq =>
    obtain ⟨rfl, rfl⟩ := List.cons.inj heq
    rw [if_neg (by simp [h, hbackslash])]
    cases readPieces t <;> rfl

/-- A character is read back from the form that it has in a string. -/
theorem exists_readPieces_writeChar (c : Char) :
  ∃ p, (∀ t, readPieces (writeChar c ++ t)
      = (readPieces t).map fun read => (p :: read.1, read.2))
    ∧ ∀ ps, textOfPieces? (p :: ps) = (textOfPieces? ps).map (c :: ·)
  := by
  unfold writeChar
  split
  · exact ⟨.char '"', readPieces_escape (by decide) rfl, textOfPieces?_char _⟩
  · exact ⟨.char '\\', readPieces_escape (by decide) rfl, textOfPieces?_char _⟩
  · exact ⟨.char '\x08', readPieces_escape (by decide) rfl, textOfPieces?_char _⟩
  · exact ⟨.char '\x0c', readPieces_escape (by decide) rfl, textOfPieces?_char _⟩
  · exact ⟨.char '\n', readPieces_escape (by decide) rfl, textOfPieces?_char _⟩
  · exact ⟨.char '\r', readPieces_escape (by decide) rfl, textOfPieces?_char _⟩
  · exact ⟨.char '\t', readPieces_escape (by decide) rfl, textOfPieces?_char _⟩
  · next hquote hbackslash _ _ _ _ _ =>
    split
    · next hcontrol =>
      refine ⟨.codeUnit c.toNat, readPieces_control hcontrol, ?_⟩
      intro ps
      rw [textOfPieces?_codeUnit (by omega), Char.ofNat_toNat]
    · next hplain =>
      exact ⟨.char c, readPieces_plain hquote hbackslash hplain, textOfPieces?_char c⟩

theorem exists_readPieces (t : Text) :
  ∃ pieces, (∀ u, readPieces (t.flatMap writeChar ++ '"' :: u) = some (pieces, u))
    ∧ textOfPieces? pieces = some t
  := by
  induction t with
  | nil => exact ⟨[], fun u => rfl, rfl⟩
  | cons c t ih =>
    obtain ⟨pieces, hpieces, htext⟩ := ih
    obtain ⟨p, hread, hp⟩ := exists_readPieces_writeChar c
    refine ⟨p :: pieces, ?_, ?_⟩
    · intro u
      rw [List.flatMap_cons, List.append_assoc, hread, hpieces u]
      rfl
    · rw [hp, htext]
      rfl

/-! ### Numbers -/

theorem numeral_decimal (n : Nat) :
  DirectiveLint.Numeral (decimal n) n
  := by
  apply numeral_iff.mpr
  rw [isDigits_iff]
  refine ⟨⟨Nat.toDigits_ne_nil, ?_⟩, ?_⟩
  · intro c hc
    exact Nat.isDigit_of_mem_toDigits (by decide) (by decide) hc
  · exact Nat.ofDigitChars_toDigits (by decide) (by decide)

/-- The digits of a number start with a zero only if it is zero. -/
theorem head?_decimal_ne {n : Nat} (h : 0 < n) :
  (decimal n).head? ≠ some '0'
  := by
  induction n using Nat.strongRecOn with
  | ind n ih =>
    unfold decimal at ih ⊢
    by_cases hlt : n < 10
    · rw [Nat.toDigits_of_lt_base hlt, List.head?_cons]
      intro hzero
      have hvalue := Nat.toNat_digitChar_of_lt_ten hlt
      rw [Option.some.inj hzero] at hvalue
      have : '0'.toNat = 48 := rfl
      omega
    · rw [Nat.toDigits_of_base_le (by decide) (by omega), List.head?_append]
      obtain ⟨c, hc⟩ := Option.isSome_iff_exists.mp
        (List.isSome_head?.mpr (Nat.toDigits_ne_nil (n := n / 10) (b := 10)))
      have hhead := ih (n / 10) (by omega) (by omega)
      rwa [hc] at hhead ⊢

/-- A text that no number goes on with. -/
def EndsNumber (u : Text) : Prop :=
  ∀ c ∈ u.head?, c.isDigit = false ∧ c ≠ '.' ∧ c ≠ 'e' ∧ c ≠ 'E'

/-- The digits of a number end where no number goes on. -/
theorem takeWhile_decimal (n : Nat) (hu : EndsNumber u) :
  (decimal n ++ u).takeWhile Char.isDigit = decimal n
    ∧ (decimal n ++ u).dropWhile Char.isDigit = u
  := by
  apply takeWhile_eq_and_dropWhile_eq_iff.mpr
  exact ⟨rfl, fun c hc => (numeral_decimal n).isDigit_of_mem hc, fun c hc => (hu c hc).1⟩

theorem readNumeral_decimal (n : Nat) (hu : EndsNumber u) :
  readNumeral false (decimal n ++ u) = some (⟨false, decimal n, [], none⟩, u)
  := by
  have hfraction : readFraction u = some ([], u) := by
    unfold readFraction
    split
    · exact absurd rfl (hu '.' rfl).2.1
    · rfl
  have hexponent : readExponent u = some (none, u) := by
    unfold readExponent
    split
    · exact absurd rfl (hu 'e' rfl).2.2.1
    · exact absurd rfl (hu 'E' rfl).2.2.2
    · exact absurd rfl (hu 'e' rfl).2.2.1
    · exact absurd rfl (hu 'E' rfl).2.2.2
    · exact absurd rfl (hu 'e' rfl).2.2.1
    · exact absurd rfl (hu 'E' rfl).2.2.2
    · rfl
  obtain ⟨htake, hdrop⟩ := takeWhile_decimal n hu
  have hne : decimal n ≠ [] := Nat.toDigits_ne_nil
  unfold readNumeral
  split
  · next t hzero =>
    obtain rfl : n = 0 := by
      by_contra hpos
      obtain ⟨c, digits, hdigits⟩ := List.exists_cons_of_ne_nil hne
      apply head?_decimal_ne (Nat.pos_of_ne_zero hpos)
      rw [hdigits] at hzero ⊢
      exact congrArg some (List.cons.inj hzero).1
    obtain ⟨-, rfl⟩ := List.cons.inj hzero
    change (readFraction u).bind _ = _
    rw [hfraction]
    change (readExponent u).bind _ = _
    rw [hexponent]
    rfl
  · rw [htake, hdrop]
    have hempty : (decimal n).isEmpty = false := List.isEmpty_eq_false_iff.mpr hne
    dsimp only
    rw [hempty]
    change (readFraction u).bind _ = _
    rw [hfraction]
    change (readExponent u).bind _ = _
    rw [hexponent]
    rfl

/-! ### Tokens -/

/-- A text starts with some tokens, gaps around them. -/
inductive Reads : Text → List Token → Text → Prop where
  | refl (t : Text) : Reads t [] t
  | gap {c : Char} {t r : Text} {tokens : List Token} (hc : isGap c = true)
      (h : Reads t tokens r) : Reads (c :: t) tokens r
  | token {c : Char} {w t r : Text} {token : Token} {tokens : List Token}
      (hc : isGap c = false) (hread : readToken c (w ++ t) = some (token, t))
      (h : Reads t tokens r) : Reads (c :: (w ++ t)) (token :: tokens) r

theorem Reads.trans {r : Text} (h : Reads t tokens u) (h' : Reads u tokens' r) :
  Reads t (tokens ++ tokens') r
  := by
  induction h with
  | refl _ => exact h'
  | gap hc _ ih => exact .gap hc (ih h')
  | token hc hread _ ih => exact .token hc hread (ih h')

theorem Reads.length_le (h : Reads t tokens u) :
  tokens.length ≤ t.length
  := by
  induction h with
  | refl _ => exact Nat.zero_le _
  | gap _ _ ih => exact Nat.le_succ_of_le ih
  | token _ _ _ ih =>
    rw [List.length_cons, List.length_cons, List.length_append]
    omega

theorem tokensWithin_of_reads (h : Reads t tokens []) {fuel : Nat} (hfuel : tokens.length < fuel) :
  tokensWithin fuel t = some tokens
  := by
  generalize hend : ([] : Text) = r at h
  induction h generalizing fuel with
  | refl _ =>
    obtain ⟨fuel, rfl⟩ := Nat.exists_eq_add_one.mpr hfuel
    subst hend
    rfl
  | gap hc _ ih =>
    obtain ⟨fuel, rfl⟩ := Nat.exists_eq_add_one.mpr (Nat.zero_lt_of_lt hfuel)
    have h := ih hfuel hend
    rw [tokensWithin] at h ⊢
    rwa [List.dropWhile_cons_of_pos hc]
  | token hc hread _ ih =>
    obtain ⟨fuel, rfl⟩ := Nat.exists_eq_add_one.mpr (Nat.zero_lt_of_lt hfuel)
    have h := ih (Nat.lt_of_succ_lt_succ hfuel) hend
    rw [tokensWithin, List.dropWhile_cons_of_neg (by simp [hc])]
    change (readToken _ _).bind _ = _
    rw [hread]
    change (tokensWithin fuel _).bind _ = _
    rw [h]
    rfl

theorem tokens?_of_reads (h : Reads t tokens []) :
  tokens? t = some tokens
  := tokensWithin_of_reads h (Nat.lt_succ_of_le h.length_le)

theorem Reads.newLine {level : Nat} (h : Reads t tokens u) :
  Reads (newLine level ++ t) tokens u
  := by
  have hspaces : ∀ n, Reads (List.replicate n ' ' ++ t) tokens u := by
    intro n
    induction n with
    | zero => exact h
    | succ n ih => exact .gap rfl ih
  exact .gap rfl (hspaces _)

/-! ### Layouts -/

theorem endsNumber_cons {c : Char} (hdigit : c.isDigit = false)
    (h : c ≠ '.' ∧ c ≠ 'e' ∧ c ≠ 'E') (t : Text) :
  EndsNumber (c :: t)
  := by
  intro c' hc'
  obtain rfl := Option.some.inj hc'
  exact ⟨hdigit, h⟩

section Reader

variable {α β : Type} {read : Nat → List Token → Option (α × List Token)}
  {read' : Nat → List Token → Option (β × List Token)} {a : α} {b b' : β}

/-- A text is read as tokens of which a reader makes something, if the text behind it may follow a
value.  Fuel for two calls a token is enough. -/
def SpellsBy (read : Nat → List Token → Option (α × List Token)) (t : Text) (a : α) : Prop :=
  ∃ tokens, (∀ u, EndsNumber u → Reads (t ++ u) tokens u)
    ∧ ∀ fuel rest, 2 * tokens.length ≤ fuel → read fuel (tokens ++ rest) = some (a, rest)

theorem SpellsBy.newLine (h : SpellsBy read t a) (level : Nat) :
  SpellsBy read (newLine level ++ t) a
  := by
  obtain ⟨tokens, hreads, hread⟩ := h
  refine ⟨tokens, ?_, hread⟩
  intro u hu
  rw [List.append_assoc]
  exact (hreads u hu).newLine

/-- A mark stands before the text. -/
theorem SpellsBy.opened (h : SpellsBy read t a) {c : Char} {first : Token}
    (hc : isGap c = false) (hfirst : ∀ u, readToken c u = some (first, u))
    (hb : ∀ fuel tokens rest, read fuel tokens = some (a, rest) →
      read' (fuel + 1) (first :: tokens) = some (b, rest)) :
  SpellsBy read' (c :: t) b
  := by
  obtain ⟨tokens, hreads, hread⟩ := h
  refine ⟨first :: tokens, ?_, ?_⟩
  · intro u hu
    exact .token (w := []) hc (hfirst _) (hreads u hu)
  · intro fuel rest hfuel
    rw [List.length_cons] at hfuel
    obtain ⟨fuel, rfl⟩ := Nat.exists_eq_add_one.mpr (show 0 < fuel by omega)
    exact hb fuel _ rest (hread fuel rest (by omega))

/-- A mark stands behind the text, on a line of its own. -/
theorem SpellsBy.closed (h : SpellsBy read t a) (level : Nat) {c : Char} {last : Token}
    (hc : isGap c = false) (hlast : ∀ u, readToken c u = some (last, u))
    (hb : ∀ fuel tokens rest, read fuel tokens = some (a, last :: rest) →
      read' (fuel + 1) tokens = some (b, rest)) :
  SpellsBy read' (t ++ Json.newLine level ++ [c]) b
  := by
  obtain ⟨tokens, hreads, hread⟩ := h
  refine ⟨tokens ++ [last], ?_, ?_⟩
  · intro u _
    rw [List.append_assoc, List.append_assoc]
    apply (hreads _ (endsNumber_cons rfl (by decide) _)).trans
    apply Reads.newLine
    exact .token (w := []) hc (hlast u) (.refl u)
  · intro fuel rest hfuel
    rw [List.length_append, List.length_singleton] at hfuel
    obtain ⟨fuel, rfl⟩ := Nat.exists_eq_add_one.mpr (show 0 < fuel by omega)
    rw [List.append_assoc]
    exact hb fuel _ rest (hread fuel _ (by omega))

/-- A comma and a further text stand behind the text. -/
theorem SpellsBy.comma (h : SpellsBy read t a) (h' : SpellsBy read' u b)
    (hb : ∀ fuel tokens next rest, read fuel tokens = some (a, .comma :: next) →
      read' fuel next = some (b, rest) → read' (fuel + 1) tokens = some (b', rest)) :
  SpellsBy read' (t ++ ',' :: u) b'
  := by
  obtain ⟨tokens, hreads, hread⟩ := h
  obtain ⟨tokens', hreads', hread'⟩ := h'
  refine ⟨tokens ++ .comma :: tokens', ?_, ?_⟩
  · intro r hr
    rw [List.append_assoc, List.cons_append]
    apply (hreads _ (endsNumber_cons rfl (by decide) _)).trans
    exact .token (w := []) rfl rfl (hreads' r hr)
  · intro fuel rest hfuel
    rw [List.length_append, List.length_cons] at hfuel
    obtain ⟨fuel, rfl⟩ := Nat.exists_eq_add_one.mpr (show 0 < fuel by omega)
    rw [List.append_assoc, List.cons_append]
    exact hb fuel _ _ rest (hread fuel _ (by omega)) (hread' fuel rest (by omega))

end Reader

/-! ### Documents in one or two tokens -/

/-- A text spells a document. -/
abbrev Spells : Text → Document → Prop := SpellsBy Document.ofTokens

theorem spells_of_token {c : Char} {w : Text} {token : Token} (hc : isGap c = false)
    (hread : ∀ u, EndsNumber u → readToken c (w ++ u) = some (token, u))
    (hd : ∀ fuel rest, Document.ofTokens (fuel + 1) (token :: rest) = some (d, rest)) :
  Spells (c :: w) d
  := by
  refine ⟨[token], fun u hu => .token hc (hread u hu) (.refl u), ?_⟩
  intro fuel rest hfuel
  obtain ⟨fuel, rfl⟩ := Nat.exists_eq_add_one.mpr (Nat.lt_of_lt_of_le Nat.zero_lt_two hfuel)
  exact hd fuel rest

/-- Two marks with nothing between them. -/
theorem spells_empty {first last : Char} {opened closed : Token}
    (hgaps : isGap first = false ∧ isGap last = false)
    (hfirst : ∀ u, readToken first u = some (opened, u))
    (hlast : ∀ u, readToken last u = some (closed, u))
    (hd : ∀ fuel rest, Document.ofTokens (fuel + 1) (opened :: closed :: rest) = some (d, rest)) :
  Spells [first, last] d
  := by
  refine ⟨[opened, closed], ?_, ?_⟩
  · intro u _
    exact .token (w := []) hgaps.1 (hfirst _) (.token (w := []) hgaps.2 (hlast u) (.refl u))
  · intro fuel rest hfuel
    obtain ⟨fuel, rfl⟩ := Nat.exists_eq_add_one.mpr (Nat.lt_of_lt_of_le (Nat.succ_pos 3) hfuel)
    exact hd fuel rest

theorem spells_string (t : Text) :
  ∃ pieces, Spells (writeString t) (.string pieces) ∧ textOfPieces? pieces = some t
  := by
  obtain ⟨pieces, hread, htext⟩ := exists_readPieces t
  have hwritten : writeString t = '"' :: (t.flatMap writeChar ++ ['"']) := by simp [writeString]
  rw [hwritten]
  have htoken : ∀ u, EndsNumber u →
      readToken '"' (t.flatMap writeChar ++ ['"'] ++ u) = some (.string pieces, u) := by
    intro u _
    change (readPieces (t.flatMap writeChar ++ ['"'] ++ u)).map _ = _
    rw [List.append_assoc, List.singleton_append, hread u]
    rfl
  exact ⟨pieces, spells_of_token rfl htoken fun fuel rest => rfl, htext⟩

theorem spells_number (n : Nat) :
  Spells (decimal n) (.number ⟨false, decimal n, [], none⟩)
  := by
  obtain ⟨c, digits, hdigits⟩ : ∃ c digits, decimal n = c :: digits :=
    List.exists_cons_of_ne_nil Nat.toDigits_ne_nil
  have hdigit : c.isDigit = true :=
    (numeral_decimal n).isDigit_of_mem (hdigits ▸ List.mem_cons_self)
  have htoken : ∀ u, EndsNumber u →
      readToken c (digits ++ u) = some (.number ⟨false, decimal n, [], none⟩, u) := by
    intro u hu
    have hread := readNumeral_decimal n hu
    rw [hdigits] at hread
    unfold readToken
    split <;> first | exact absurd hdigit (by decide) | skip
    rw [if_pos hdigit, ← List.cons_append, hread, hdigits]
    rfl
  have hgap : isGap c = false := by
    unfold isGap
    rw [Bool.or_eq_false_iff, Bool.or_eq_false_iff, Bool.or_eq_false_iff]
    refine ⟨⟨⟨?_, ?_⟩, ?_⟩, ?_⟩ <;> rw [beq_eq_false_iff_ne] <;> rintro rfl <;> contradiction
  rw [hdigits]
  rw [hdigits] at htoken
  exact spells_of_token hgap htoken fun fuel rest => rfl

/-! ### Items and members -/

/-- A text spells the items of an array up to its closing bracket. -/
abbrev SpellsItems : Text → List Document → Prop := SpellsBy Document.itemsOfTokens

theorem Spells.item (h : Spells t d) (level : Nat) :
  SpellsItems (t ++ Json.newLine level ++ [']']) [d]
  := by
  apply h.closed level rfl fun u => rfl
  intro fuel tokens rest hd
  rw [Document.itemsOfTokens, hd]

theorem SpellsItems.cons {ds : List Document} (h : SpellsItems u ds) (hd : Spells t d) :
  SpellsItems (t ++ ',' :: u) (d :: ds)
  := by
  apply hd.comma h
  intro fuel tokens next rest hd hds
  rw [Document.itemsOfTokens, hd]
  dsimp only
  rw [hds]
  rfl

theorem SpellsItems.array {ds : List Document} (h : SpellsItems t ds) :
  Spells ('[' :: t) (.array ds)
  := by
  apply h.opened rfl fun u => rfl
  intro fuel tokens rest hds
  rw [Document.ofTokens, hds]
  · rfl
  · rintro rest' rfl
    -- no item starts with the closing bracket
    match fuel with
    | 0 => contradiction
    | 1 => contradiction
    | fuel + 2 => contradiction

/-- A key and a document behind it. -/
def memberOfTokens (fuel : Nat) : List Token → Option ((List Piece × Document) × List Token)
  | .string key :: .colon :: tokens =>
    (Document.ofTokens fuel tokens).map fun (d, rest) => ((key, d), rest)
  | _ => none

theorem exists_of_memberOfTokens {fuel : Nat} {key : List Piece} {rest : List Token}
    (h : memberOfTokens fuel tokens = some ((key, d), rest)) :
  ∃ tokens', tokens = .string key :: .colon :: tokens'
    ∧ Document.ofTokens fuel tokens' = some (d, rest)
  := by
  unfold memberOfTokens at h
  split at h
  · obtain ⟨⟨d', rest'⟩, hdocument, heq⟩ := Option.map_eq_some_iff.mp h
    cases heq
    exact ⟨_, rfl, hdocument⟩
  · contradiction

/-- A text spells a key and a document. -/
abbrev SpellsMember : Text → List Piece × Document → Prop := SpellsBy memberOfTokens

/-- A text spells the members of an object up to its closing brace. -/
abbrev SpellsMembers : Text → List (List Piece × Document) → Prop :=
  SpellsBy Document.membersOfTokens

theorem Spells.keyed (h : Spells t d) (level : Nat) (key : Text) :
  ∃ pieces, textOfPieces? pieces = some key
    ∧ SpellsMember (Json.newLine level ++ writeString key ++ [':', ' '] ++ t) (pieces, d)
  := by
  obtain ⟨tokens, hreads, hdocument⟩ := h
  obtain ⟨pieces, hread, htext⟩ := exists_readPieces key
  refine ⟨pieces, htext, .string pieces :: .colon :: tokens, ?_, ?_⟩
  · intro u hu
    have hwritten : Json.newLine level ++ writeString key ++ [':', ' '] ++ t ++ u
        = Json.newLine level ++ '"' :: ((key.flatMap writeChar ++ ['"'])
          ++ ':' :: ([] ++ ' ' :: (t ++ u))) := by
      simp [writeString]
    rw [hwritten]
    apply Reads.newLine
    refine .token rfl ?_ (.token rfl rfl (.gap rfl (hreads u hu)))
    change (readPieces (key.flatMap writeChar ++ ['"'] ++ ([':'] ++ _))).map _ = _
    rw [List.append_assoc, List.singleton_append, hread]
    rfl
  · intro fuel rest hfuel
    rw [List.length_cons, List.length_cons] at hfuel
    rw [List.cons_append, List.cons_append, memberOfTokens, hdocument fuel rest (by omega)]
    rfl

theorem SpellsMember.last {key : List Piece} (h : SpellsMember t (key, d)) (level : Nat) :
  SpellsMembers (t ++ Json.newLine level ++ ['\x7d']) [(key, d)]
  := by
  apply h.closed level rfl fun u => rfl
  intro fuel tokens rest hmember
  obtain ⟨tokens', rfl, hdocument⟩ := exists_of_memberOfTokens hmember
  rw [Document.membersOfTokens]
  dsimp only
  rw [hdocument]

theorem SpellsMembers.cons {key : List Piece} {ds : List (List Piece × Document)}
    (h : SpellsMembers u ds) (hd : SpellsMember t (key, d)) :
  SpellsMembers (t ++ ',' :: u) ((key, d) :: ds)
  := by
  apply hd.comma h
  intro fuel tokens next rest hmember hds
  obtain ⟨tokens', rfl, hdocument⟩ := exists_of_memberOfTokens hmember
  rw [Document.membersOfTokens]
  dsimp only
  rw [hdocument]
  dsimp only
  rw [hds]
  rfl

theorem SpellsMembers.object {ds : List (List Piece × Document)} (h : SpellsMembers t ds) :
  Spells ('\x7b' :: t) (.object ds)
  := by
  apply h.opened rfl fun u => rfl
  intro fuel tokens rest hds
  rw [Document.ofTokens, hds]
  · rfl
  · rintro rest' rfl
    -- no member starts with the closing brace
    match fuel with
    | 0 => contradiction
    | fuel + 1 => contradiction

/-! ### Values -/

theorem exists_spellsItems {level : Nat} {items : List Json} (hne : items ≠ [])
    (h : ∀ v ∈ items, ∃ d, Spells (layoutAt (level + 1) v) d ∧ d.Holds v) :
  ∃ ds, SpellsItems (joinWith [','] (layoutItems (level + 1) items) ++ newLine level ++ [']']) ds
    ∧ ds.Forall₂ Document.Holds items
  := by
  induction items with
  | nil => contradiction
  | cons v vs ih =>
    rw [List.forall_mem_cons] at h
    obtain ⟨⟨d, hd, hv⟩, hvs⟩ := h
    have hd : Spells (newLine (level + 1) ++ layoutAt (level + 1) v) d := hd.newLine (level + 1)
    cases vs with
    | nil =>
      refine ⟨[d], ?_, .cons hv .nil⟩
      simpa [layoutItems, joinWith] using hd.item level
    | cons v' vs =>
      obtain ⟨ds, hds, hholds⟩ := ih (List.cons_ne_nil v' vs) hvs
      refine ⟨d :: ds, ?_, .cons hv hholds⟩
      have hitems := hds.cons hd
      simpa [layoutItems, joinWith, List.intercalate_cons_cons] using hitems

theorem exists_spellsMembers {level : Nat} {members : List (Text × Json)} (hne : members ≠ [])
    (h : ∀ m ∈ members, ∃ d, Spells (layoutAt (level + 1) m.2) d ∧ d.Holds m.2) :
  ∃ ds, SpellsMembers (joinWith [','] (layoutMembers (level + 1) members) ++ newLine level
      ++ ['\x7d']) ds
    ∧ ds.map (textOfPieces? ·.1) = members.map (some ·.1)
    ∧ (ds.map Prod.snd).Forall₂ Document.Holds (members.map Prod.snd)
  := by
  induction members with
  | nil => contradiction
  | cons m ms ih =>
    rw [List.forall_mem_cons] at h
    obtain ⟨⟨d, hd, hm⟩, hms⟩ := h
    obtain ⟨key, hkey, hd⟩ := hd.keyed (level + 1) m.1
    cases ms with
    | nil =>
      refine ⟨[(key, d)], ?_, ?_, .cons hm .nil⟩
      · simpa [layoutMembers, joinWith] using hd.last level
      · rw [List.map_singleton, List.map_singleton, hkey]
    | cons m' ms =>
      obtain ⟨ds, hds, hkeys, hholds⟩ := ih (List.cons_ne_nil m' ms) hms
      refine ⟨(key, d) :: ds, ?_, ?_, .cons hm hholds⟩
      · have hmembers := hds.cons hd
        simpa [layoutMembers, joinWith, List.intercalate_cons_cons] using hmembers
      · rw [List.map_cons, hkeys, hkey]
        rfl

/-- The layout of a value spells a document that holds it. -/
theorem exists_spells_layoutAt (h : v.Natural) (level : Nat) :
  ∃ d, Spells (layoutAt level v) d ∧ d.Holds v
  := by
  induction v generalizing level with
  | null => exact ⟨.null, spells_of_token rfl (fun u _ => rfl) fun fuel rest => rfl, .null⟩
  | bool b =>
    refine ⟨.bool b, ?_, .bool b⟩
    cases b
    · exact spells_of_token rfl (fun u _ => rfl) fun fuel rest => rfl
    · exact spells_of_token rfl (fun u _ => rfl) fun fuel rest => rfl
  | number n =>
    cases h with
    | number n => exact ⟨_, spells_number n, .number (numeral_decimal n)⟩
  | string t =>
    obtain ⟨pieces, hspells, htext⟩ := spells_string t
    exact ⟨.string pieces, hspells, .string htext⟩
  | array items ih =>
    cases h with
    | array h =>
      cases items with
      | nil => exact ⟨.array [], spells_empty ⟨rfl, rfl⟩ (fun u => rfl) (fun u => rfl)
        fun fuel rest => rfl, .array .nil⟩
      | cons v vs =>
        obtain ⟨ds, hds, hholds⟩ := exists_spellsItems (List.cons_ne_nil v vs)
          fun v' hv => ih v' hv (h v' hv) (level + 1)
        refine ⟨.array ds, ?_, .array hholds⟩
        have hlayout : layoutAt level (.array (v :: vs))
            = '[' :: (joinWith [','] (layoutItems (level + 1) (v :: vs)) ++ newLine level
              ++ [']']) := by
          simp [layoutAt]
        rw [hlayout]
        exact hds.array
  | object members ih =>
    cases h with
    | object h =>
      cases members with
      | nil => exact ⟨.object [], spells_empty ⟨rfl, rfl⟩ (fun u => rfl) (fun u => rfl)
        fun fuel rest => rfl, .object rfl .nil⟩
      | cons m ms =>
        obtain ⟨ds, hds, hkeys, hholds⟩ := exists_spellsMembers (List.cons_ne_nil m ms)
          fun m' hm => ih m' hm (h m' hm) (level + 1)
        refine ⟨.object ds, ?_, .object hkeys hholds⟩
        have hlayout : layoutAt level (.object (m :: ms))
            = '\x7b' :: (joinWith [','] (layoutMembers (level + 1) (m :: ms)) ++ newLine level
              ++ ['\x7d']) := by
          simp [layoutAt]
        rw [hlayout]
        exact hds.object

namespace Document

/-- The layout of a value, with a line feed behind it, is read as a document that holds it. -/
theorem exists_read?_layout (h : v.Natural) :
  ∃ d, read? (layout v ++ ['\n']) = some d ∧ d.Holds v
  := by
  obtain ⟨d, ⟨tokens, hreads, hdocument⟩, hholds⟩ := exists_spells_layoutAt h 0
  have hline : EndsNumber ['\n'] := endsNumber_cons rfl (by decide) []
  have hend := (hreads ['\n'] hline).trans (.gap rfl (.refl []))
  rw [List.append_nil] at hend
  have htokens := hdocument (2 * tokens.length + 1) [] (Nat.le_succ _)
  rw [List.append_nil] at htokens
  refine ⟨d, ?_, hholds⟩
  change (tokens? (layoutAt 0 v ++ ['\n'])).bind _ = some d
  rw [tokens?_of_reads hend]
  dsimp only [Option.bind_some]
  rw [htokens]

end Document

end Json

end DirectiveLint
