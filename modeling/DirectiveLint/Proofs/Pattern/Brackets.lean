import DirectiveLint.Proofs.Pattern.Escape
import DirectiveLint.Proofs.Text.Pieces

/-!
# Bracketed classes in front of a closing parenthesis

A class that is read to its end before a closing parenthesis is read from the text before the
parenthesis alone (`readClass_of_append`).  A class is read in rounds, and `turn?` is one of
them; the last round closes the class, and every other one has to leave something that is not
skipped, so what it looks at ahead does not reach the parenthesis.
-/

namespace DirectiveLint.Pattern

variable {m : Mode} {t u r : Text}

/-! ### Opening brackets -/

theorem suffix_of_takeHyphens (fuel : Nat) (t : Text) :
  (takeHyphens m fuel t).2 <:+ t
  := by
  induction fuel generalizing t with
  | zero => apply List.suffix_rfl
  | succ fuel ih =>
    have hskip := m.skip_suffix t
    unfold takeHyphens
    split
    · next rest heq =>
      rw [heq] at hskip
      apply (ih rest).trans
      apply (List.suffix_cons '-' rest).trans hskip
    · apply hskip

theorem takeHyphens_of_append {fuel fuel' n : Nat}
    (h : takeHyphens m fuel (t ++ ')' :: u) = (n, r ++ ')' :: u))
    (hfuel : t.length < fuel) (hfuel' : t.length < fuel') :
  takeHyphens m fuel' t = (n, r)
  := by
  induction fuel generalizing t n fuel' with
  | zero => contradiction
  | succ fuel ih =>
    obtain ⟨fuel', rfl⟩ := Nat.exists_eq_add_one_of_ne_zero (Nat.ne_zero_of_lt hfuel')
    have hlength := (m.skip_suffix t).length_le
    unfold takeHyphens at h ⊢
    split at h
    · next rest hskip =>
      obtain ⟨rfl, hr⟩ := Prod.mk.inj h
      have hsuffix := suffix_of_takeHyphens (m := m) fuel rest
      rw [hr] at hsuffix
      obtain ⟨w, hw, rfl⟩ := exists_cons_of_append hskip hsuffix
      rw [hw, List.length_cons] at hlength
      have hmore : takeHyphens m fuel' w = (_, r) := ih (Prod.ext rfl hr) (by omega) (by omega)
      simp only [hw, hmore]
    · next hne =>
      obtain ⟨rfl, hr⟩ := Prod.mk.inj h
      rw [m.skip_of_append hr]
      split
      · next rest =>
        exact absurd hr (hne _)
      · rfl

/-- Whether a class is negated, and the text behind the sign for it. -/
def signed : Text → Bool × Text
  | '^' :: rest => (true, rest)
  | t => (false, t)

theorem signed_suffix (t : Text) :
  (signed t).2 <:+ t
  := by
  unfold signed
  split
  · next rest => apply List.suffix_cons
  · apply List.suffix_rfl

theorem signed_append (t u : Text) :
  signed (t ++ ')' :: u) = ((signed t).1, (signed t).2 ++ ')' :: u)
  := by
  cases t with
  | nil => rfl
  | cons c t =>
    by_cases hc : c = '^'
    · subst hc
      rfl
    · have hplain : ∀ s, signed (c :: s) = (false, c :: s) := by
        intro s
        unfold signed
        split
        · next heq => exact absurd (List.cons.inj heq).1 hc
        · rfl
      rw [List.cons_append, hplain, hplain]
      rfl

/-- The level that a bracket opens, behind its hyphens. -/
def classStart (m : Mode) (negated : Bool) (hyphens : Nat) (t : Text) :
    Option (ClassLevel × Text) :=
  let items := List.replicate hyphens (SetItem.mk (m.fold (.single '-')) 0)
  match m.skip t with
  | [] => none
  | ']' :: rest =>
    if hyphens == 0 then
      if (m.skip rest).isEmpty then none
      else some (⟨negated, [⟨.single ']', 0⟩], none⟩, rest)
    else some (⟨negated, items, none⟩, t)
  | t => some (⟨negated, items, none⟩, t)

theorem openClass_eq (m : Mode) (t : Text) :
  openClass m t =
    let (negated, t) := signed (m.skip t)
    let (hyphens, t) := takeHyphens m (t.length + 1) t
    classStart m negated hyphens t
  := rfl

theorem suffix_of_classStart {negated : Bool} {hyphens : Nat} {level : ClassLevel}
    (h : classStart m negated hyphens t = some (level, r)) :
  r <:+ t
  := by
  have hskip := m.skip_suffix t
  unfold classStart at h
  dsimp only at h
  split at h
  · contradiction
  · next rest heq =>
    rw [heq] at hskip
    split at h
    · split at h
      · contradiction
      · obtain ⟨-, rfl⟩ := Prod.mk.inj (Option.some.inj h)
        apply (List.suffix_cons ']' rest).trans hskip
    · obtain ⟨-, rfl⟩ := Prod.mk.inj (Option.some.inj h)
      apply List.suffix_rfl
  · obtain ⟨-, rfl⟩ := Prod.mk.inj (Option.some.inj h)
    apply hskip

theorem classStart_of_append {negated : Bool} {hyphens : Nat} {level : ClassLevel}
    (h : classStart m negated hyphens (t ++ ')' :: u) = some (level, r ++ ')' :: u))
    (hr : m.skip r ≠ []) :
  classStart m negated hyphens t = some (level, r)
  := by
  unfold classStart at h ⊢
  dsimp only at h ⊢
  split at h
  · contradiction
  · next rest hskip =>
    split at h
    · next hhyphens =>
      split at h
      · contradiction
      · obtain ⟨rfl, rfl⟩ := Prod.mk.inj (Option.some.inj h)
        have hempty : ¬ (m.skip r).isEmpty = true := by simpa using hr
        rw [m.skip_of_append (r := ']' :: r) hskip]
        simp only [hhyphens, if_true, if_neg hempty]
    · next hhyphens =>
      obtain ⟨rfl, heq⟩ := Prod.mk.inj (Option.some.inj h)
      obtain rfl := List.append_cancel_right heq
      rw [m.skip_append_of_ne_nil hr] at hskip
      obtain ⟨c, w, hw⟩ := List.exists_cons_of_ne_nil hr
      rw [hw] at hskip ⊢
      obtain ⟨rfl, -⟩ := List.cons.inj hskip
      simp only [if_neg hhyphens]
  · next hbracket =>
    obtain ⟨rfl, heq⟩ := Prod.mk.inj (Option.some.inj h)
    rw [heq] at hbracket
    rw [m.skip_of_append heq]
    split
    · exact absurd m.skip_nil hr
    · next rest => exact (hbracket _ rfl).elim
    · rfl

theorem suffix_of_openClass {level : ClassLevel} (h : openClass m t = some (level, r)) :
  r <:+ t
  := by
  rw [openClass_eq] at h
  dsimp only at h
  apply (suffix_of_classStart h).trans
  apply (suffix_of_takeHyphens _ _).trans
  apply (signed_suffix _).trans (m.skip_suffix t)

theorem openClass_of_append {level : ClassLevel}
    (h : openClass m (t ++ ')' :: u) = some (level, r ++ ')' :: u)) (hr : m.skip r ≠ []) :
  openClass m t = some (level, r)
  := by
  rw [openClass_eq] at h ⊢
  dsimp only at h ⊢
  have hstart := suffix_of_classStart h
  have hhyphens := hstart.trans (suffix_of_takeHyphens _ _)
  rw [m.skip_append (hhyphens.trans (signed_suffix _)), signed_append] at h hstart
  dsimp only at h hstart
  obtain ⟨w, hw⟩ := exists_append_of_suffix hstart
  have htake : takeHyphens m ((signed (m.skip t)).2.length + 1) (signed (m.skip t)).2 = (_, w) :=
    takeHyphens_of_append (Prod.ext rfl hw) (Nat.lt_succ_of_le (by simp)) (Nat.lt_succ_self _)
  rw [hw] at h
  rw [htake]
  apply classStart_of_append h hr

/-! ### Named classes -/

theorem head?_of_append {c : Char} (hc : c ≠ ')') (h : (t ++ ')' :: u).head? = some c) :
  t.head? = some c
  := by
  cases t with
  | nil => exact absurd (Option.some.inj h).symm hc
  | cons d t => exact h

theorem cutAt_append {d : Char} (hd : d ∈ t) (s : Text) :
  cutAt d (t ++ s) = (cutAt d t).map fun cut => (cut.1, cut.2 ++ s)
  := by
  induction t with
  | nil => contradiction
  | cons c t ih =>
    rw [List.cons_append]
    unfold cutAt
    split
    · rfl
    · next hc =>
      rw [ih ((List.mem_cons.mp hd).resolve_left (Ne.symm hc))]
      simp [Function.comp_def]

theorem cutAt_of_append {d : Char} {before s : Text}
    (h : cutAt d (t ++ s) = some (before, r ++ s)) :
  cutAt d t = some (before, r)
  := by
  have hd : d ∈ t := by
    have hparts := (cutAt_eq_some_iff.mp h).1
    rw [← List.cons_append, ← List.append_assoc] at hparts
    rw [List.append_cancel_right hparts]
    simp
  rw [cutAt_append hd] at h
  obtain ⟨⟨before', after⟩, hcut, heq⟩ := Option.map_eq_some_iff.mp h
  obtain ⟨rfl, hafter⟩ := Prod.mk.inj heq
  obtain rfl : after = r := List.append_cancel_right hafter
  apply hcut

/-- There is no parenthesis in the name of a class. -/
theorem not_mem_of_posixNamed? {name : Text} {s : CharSet}
    (h : CharSet.posixNamed? name = some s) :
  ')' ∉ name
  := by
  unfold CharSet.posixNamed? at h
  have hname : ∀ written : String, String.ofList name = written → name = written.toList := by
    rintro written rfl
    exact String.toList_ofList.symm
  split at h
  case h_15 => contradiction
  all_goals
    next heq =>
      rw [hname _ heq]
      decide

/-- The named class that a text starts with, behind the sign for negation. -/
def closedClass? (m : Mode) (negated : Bool) (t : Text) : Option (Option CharSet × Text) :=
  match cutAt ':' t with
  | some (name, ']' :: rest) =>
    (CharSet.posixNamed? name).map fun s => (m.negate? negated (m.fold s), rest)
  | _ => none

theorem readNamedClass_colon (rest : Text) :
  readNamedClass m (':' :: rest) = closedClass? m (signed rest).1 (signed rest).2
  := rfl

theorem readNamedClass_of_head? (h : t.head? ≠ some ':') :
  readNamedClass m t = none
  := by
  unfold readNamedClass
  split
  · exact absurd rfl h
  · rfl

theorem closedClass?_append (m : Mode) (negated : Bool) (t u : Text) :
  closedClass? m negated (t ++ ')' :: u)
    = (closedClass? m negated t).map fun read => (read.1, read.2 ++ ')' :: u)
  := by
  by_cases hcolon : ':' ∈ t
  · unfold closedClass?
    rw [cutAt_append hcolon]
    cases cutAt ':' t with
    | none => rfl
    | some cut =>
      obtain ⟨name, rest⟩ := cut
      cases rest with
      | nil => rfl
      | cons c rest =>
        by_cases hc : c = ']'
        · subst hc
          simp [Function.comp_def]
        · simp [hc]
  · have hnone : cutAt ':' t = none := cutAt_eq_none_iff.mpr hcolon
    have hfar : closedClass? m negated (t ++ ')' :: u) = none := by
      -- a name that ends behind the parenthesis is none of a class
      unfold closedClass?
      split
      · next name rest hcut =>
        have hname : ')' ∈ name := by
          rcases List.append_eq_append_iff.mp (cutAt_eq_some_iff.mp hcut).1 with
            ⟨s, rfl, hs⟩ | ⟨s, rfl, hs⟩
          · cases s with
            | nil => exact absurd (List.cons.inj hs).1 (by decide)
            | cons c s =>
              obtain ⟨rfl, -⟩ := List.cons.inj hs
              simp
          · cases s with
            | nil => exact absurd (List.cons.inj hs).1 (by decide)
            | cons c s =>
              obtain ⟨rfl, -⟩ := List.cons.inj hs
              simp at hcolon
        rw [Option.eq_none_iff_forall_ne_some.mpr fun s hs => not_mem_of_posixNamed? hs hname]
        rfl
      · rfl
    rw [hfar, closedClass?, hnone]
    rfl

theorem readNamedClass_append (m : Mode) (t u : Text) :
  readNamedClass m (t ++ ')' :: u)
    = (readNamedClass m t).map fun read => (read.1, read.2 ++ ')' :: u)
  := by
  by_cases hcolon : t.head? = some ':'
  · obtain ⟨t, rfl⟩ := List.head?_eq_some_iff.mp hcolon
    rw [List.cons_append, readNamedClass_colon, readNamedClass_colon, signed_append]
    apply closedClass?_append
  · have happend : (t ++ ')' :: u).head? ≠ some ':' :=
      fun h => hcolon (head?_of_append (by decide) h)
    rw [readNamedClass_of_head? hcolon, readNamedClass_of_head? happend]
    rfl

theorem suffix_of_readClassAtom {a : Atom} (h : readClassAtom m t = some (a, r)) :
  r <:+ t.tail
  := by
  unfold readClassAtom at h
  split at h
  · contradiction
  · next rest => exact (suffix_of_readEscape h).trans (List.tail_suffix rest)
  · obtain ⟨-, rfl⟩ := Prod.mk.inj (Option.some.inj h)
    apply List.suffix_rfl

theorem readClassAtom_of_append {a : Atom}
    (h : readClassAtom m (t ++ ')' :: u) = some (a, r ++ ')' :: u))
    (ha : ∀ l, a ≠ .look l) :
  readClassAtom m t = some (a, r)
  := by
  cases t with
  | nil => exact absurd (suffix_of_readClassAtom h) not_suffix_self
  | cons c rest =>
    rw [List.cons_append] at h
    by_cases hc : c = '\\'
    · subst hc
      exact readEscape_of_append h fun l hl => absurd hl (ha l)
    · have hplain : ∀ rest, readClassAtom m (c :: rest) = some (.char c, rest) := by
        intro rest
        simp only [readClassAtom]
      rw [hplain] at h ⊢
      obtain ⟨rfl, heq⟩ := Prod.mk.inj (Option.some.inj h)
      rw [List.append_cancel_right heq]

/-! ### Items -/

theorem dropWhile_isBlank_append (t u : Text) :
  (t ++ ')' :: u).dropWhile Unicode.isBlank = t.dropWhile Unicode.isBlank ++ ')' :: u
  := by
  rw [List.dropWhile_append]
  split
  · next h =>
    rw [List.isEmpty_iff.mp h]
    rfl
  · rfl

theorem skipBlanks_dropWhile (t : Text) :
  Mode.skipBlanks false (t.dropWhile Unicode.isBlank) = Mode.skipBlanks false t
  := by
  induction t with
  | nil => rfl
  | cons c t ih =>
    rw [List.dropWhile_cons]
    split
    · next hc => rw [ih, Mode.skipBlanks, if_pos hc]
    · rfl

/-- What is looked at ahead, other than the parenthesis, stands before the parenthesis. -/
theorem peek_of_append {c d : Char} (h : m.peek (c :: t ++ ')' :: u) = some d) (hd : d ≠ ')') :
  m.peek (c :: t) = some d
  := by
  unfold Mode.peek at h ⊢
  simp only [List.cons_append, List.drop_succ_cons, List.drop_zero] at h ⊢
  split
  · next hverbose =>
    rw [if_pos hverbose, dropWhile_isBlank_append] at h
    generalize t.dropWhile Unicode.isBlank = behind at h
    match behind with
    | [] => exact absurd (Option.some.inj h).symm hd
    | c :: behind =>
      by_cases hc : c = '#'
      · subst hc
        simp only [List.cons_append, dropWhile_isBlank_append] at h ⊢
        exact head?_of_append hd h
      · simp only [List.cons_append] at h ⊢
        exact h
  · next hverbose =>
    rw [if_neg hverbose] at h
    exact head?_of_append hd h

/-- What is looked at ahead is not the parenthesis if anything is left before it. -/
theorem peek_append {c d : Char} (hskip : m.skip t ≠ []) (h : m.peek (c :: t) = some d) (u : Text) :
  m.peek (c :: t ++ ')' :: u) = some d
  := by
  unfold Mode.peek Mode.skip at *
  simp only [List.cons_append, List.drop_succ_cons, List.drop_zero] at h ⊢
  split
  · next hverbose =>
    rw [if_pos hverbose] at h hskip
    rw [← skipBlanks_dropWhile] at hskip
    rw [dropWhile_isBlank_append]
    generalize t.dropWhile Unicode.isBlank = behind at h hskip
    match behind with
    | [] => exact absurd rfl hskip
    | c :: behind =>
      by_cases hc : c = '#'
      · subst hc
        simp only [List.cons_append, dropWhile_isBlank_append] at h ⊢
        rw [List.head?_append, h]
        rfl
      · simp only [List.cons_append] at h ⊢
        exact h
  · next hverbose =>
    rw [if_neg hverbose] at h hskip
    rw [List.head?_append, h]
    rfl

/-- A character behind an atom does not make a range of it. -/
def endsItem (m : Mode) (c : Char) (behind : Text) : Bool :=
  c != '-' || m.peek (c :: behind) == some ']' || m.peek (c :: behind) == some '-'

theorem endsItem_iff {c : Char} :
  endsItem m c t = true
    ↔ c ≠ '-' ∨ m.peek (c :: t) = some ']' ∨ m.peek (c :: t) = some '-'
  := by simp [endsItem, or_assoc]

theorem endsItem_of_append {c : Char} (h : endsItem m c (t ++ ')' :: u) = true) :
  endsItem m c t = true
  := by
  rw [endsItem_iff, ← List.cons_append] at h
  rw [endsItem_iff]
  rcases h with h | h | h
  · exact .inl h
  · exact .inr (.inl (peek_of_append h (by decide)))
  · exact .inr (.inr (peek_of_append h (by decide)))

theorem endsItem_append {c : Char} (hskip : m.skip t ≠ []) (h : endsItem m c t = true)
    (u : Text) :
  endsItem m c (t ++ ')' :: u) = true
  := by
  rw [endsItem_iff] at h
  rw [endsItem_iff, ← List.cons_append]
  rcases h with h | h | h
  · exact .inl h
  · exact .inr (.inl (peek_append hskip h u))
  · exact .inr (.inr (peek_append hskip h u))

/-- The set of an atom on its own. -/
def atomItem? (m : Mode) : Atom → Option CharSet
  | .char c => charItem? m c c
  | .set s => some s
  | .look _ => none

/-- The set of the range between two atoms. -/
def rangeItem? (m : Mode) : Atom → Atom → Option CharSet
  | .char first, .char last => if first ≤ last then charItem? m first last else none
  | _, _ => none

/-- The item that an atom starts, with what is left behind the atom. -/
def itemFrom? (m : Mode) (atom : Atom) : Text → Option (CharSet × Text)
  | [] => none
  | c :: behind =>
    if endsItem m c behind then (atomItem? m atom).map (·, c :: behind)
    else (readClassAtom m (m.skip behind)).bind fun read =>
      (rangeItem? m atom read.1).map (·, read.2)

theorem readClassItem_eq (m : Mode) (t : Text) :
  readClassItem m t = (readClassAtom m t).bind fun read => itemFrom? m read.1 (m.skip read.2)
  := by
  unfold readClassItem
  cases readClassAtom m t with
  | none => rfl
  | some read =>
    obtain ⟨atom, rest⟩ := read
    dsimp only [Option.bind_some]
    cases m.skip rest with
    | nil => rfl
    | cons c behind =>
      unfold itemFrom? endsItem
      dsimp only
      split
      · cases atom <;> rfl
      · cases hlast : readClassAtom m (m.skip behind) with
        | none => cases atom <;> rfl
        | some read =>
          obtain ⟨last, rest⟩ := read
          cases atom <;> cases last <;> try rfl
          dsimp only [rangeItem?, Option.bind_some]
          split <;> rfl

theorem itemFrom?_look (l : Look) (t : Text) :
  itemFrom? m (.look l) t = none
  := by
  cases t with
  | nil => rfl
  | cons c behind =>
    rw [itemFrom?]
    split
    · rfl
    · cases readClassAtom m (m.skip behind) <;> rfl

theorem suffix_of_itemFrom? {atom : Atom} {s : CharSet} (h : itemFrom? m atom t = some (s, r)) :
  r <:+ t
  := by
  unfold itemFrom? at h
  split at h
  · contradiction
  · next c behind =>
    split at h
    · obtain ⟨s', -, heq⟩ := Option.map_eq_some_iff.mp h
      obtain ⟨-, rfl⟩ := Prod.mk.inj heq
      apply List.suffix_rfl
    · obtain ⟨⟨last, r'⟩, hlast, hrange⟩ := Option.bind_eq_some_iff.mp h
      obtain ⟨s', -, heq⟩ := Option.map_eq_some_iff.mp hrange
      obtain ⟨-, rfl⟩ := Prod.mk.inj heq
      apply (suffix_of_readClassAtom hlast).trans
      apply (List.tail_suffix _).trans
      apply (m.skip_suffix behind).trans (List.suffix_cons c behind)

theorem suffix_of_readClassItem {s : CharSet} (h : readClassItem m t = some (s, r)) :
  r <:+ t.tail
  := by
  rw [readClassItem_eq] at h
  obtain ⟨⟨atom, rest⟩, hatom, hitem⟩ := Option.bind_eq_some_iff.mp h
  apply (suffix_of_itemFrom? hitem).trans
  apply (m.skip_suffix rest).trans (suffix_of_readClassAtom hatom)

theorem itemFrom?_of_append {atom : Atom} {s : CharSet}
    (h : itemFrom? m atom (t ++ ')' :: u) = some (s, r ++ ')' :: u)) (hr : m.skip r ≠ []) :
  itemFrom? m atom t = some (s, r)
  := by
  cases t with
  | nil =>
    have hends : endsItem m ')' u = true := rfl
    rw [List.nil_append, itemFrom?, if_pos hends] at h
    obtain ⟨s', -, heq⟩ := Option.map_eq_some_iff.mp h
    have hnil : r = [] := List.self_eq_append_left.mp (Prod.mk.inj heq).2
    rw [hnil, m.skip_nil] at hr
    contradiction
  | cons c behind =>
    rw [List.cons_append, itemFrom?] at h
    rw [itemFrom?]
    split at h
    · next hends =>
      have hends' := endsItem_of_append hends
      obtain ⟨s', hs', heq⟩ := Option.map_eq_some_iff.mp h
      obtain ⟨rfl, hrest⟩ := Prod.mk.inj heq
      rw [← List.cons_append] at hrest
      rw [if_pos hends', hs', List.append_cancel_right hrest]
      rfl
    · next hends =>
      obtain ⟨⟨last, r'⟩, hlast, hrange⟩ := Option.bind_eq_some_iff.mp h
      obtain ⟨s', hs', heq⟩ := Option.map_eq_some_iff.mp hrange
      obtain ⟨rfl, rfl⟩ := Prod.mk.inj heq
      have hsuffix := suffix_of_readClassAtom hlast
      have hskip := m.skip_append (hsuffix.trans (List.tail_suffix _))
      have hne : m.skip behind ≠ [] := by
        intro hnil
        rw [hskip, hnil] at hsuffix
        exact not_suffix_self hsuffix
      have hends' : ¬ endsItem m c behind = true :=
        fun hends' => hends (endsItem_append hne hends' u)
      have hlook : ∀ l, last ≠ .look l := by
        rintro l rfl
        cases atom <;> contradiction
      rw [hskip] at hlast
      rw [if_neg hends', readClassAtom_of_append hlast hlook, Option.bind_some, hs']
      rfl

theorem readClassItem_of_append {s : CharSet}
    (h : readClassItem m (t ++ ')' :: u) = some (s, r ++ ')' :: u)) (hr : m.skip r ≠ []) :
  readClassItem m t = some (s, r)
  := by
  rw [readClassItem_eq] at h ⊢
  obtain ⟨⟨atom, rest⟩, hatom, hitem⟩ := Option.bind_eq_some_iff.mp h
  obtain ⟨w, hw⟩ := exists_append_of_suffix (suffix_of_itemFrom? hitem)
  obtain ⟨x, rfl, hx⟩ := exists_append_of_skip hw
  have hlook : ∀ l, atom ≠ .look l := by
    rintro l rfl
    rw [itemFrom?_look] at hitem
    contradiction
  rw [readClassAtom_of_append hatom hlook, Option.bind_some]
  dsimp only at hitem ⊢
  rw [hw] at hitem
  rw [hx]
  apply itemFrom?_of_append hitem hr

/-! ### Levels of brackets -/

theorem suffix_of_readNamedClass {o : Option CharSet} (h : readNamedClass m t = some (o, r)) :
  r <:+ t
  := by
  by_cases hcolon : t.head? = some ':'
  · obtain ⟨t, rfl⟩ := List.head?_eq_some_iff.mp hcolon
    rw [readNamedClass_colon] at h
    unfold closedClass? at h
    split at h
    · next name rest hcut =>
      obtain ⟨s, -, heq⟩ := Option.map_eq_some_iff.mp h
      obtain ⟨-, rfl⟩ := Prod.mk.inj heq
      have hsigned := signed_suffix t
      rw [(cutAt_eq_some_iff.mp hcut).1] at hsigned
      apply (List.suffix_append_of_suffix _).trans (hsigned.trans (List.suffix_cons ':' t))
      apply (List.suffix_cons _ _).trans (List.suffix_cons _ _)
    · contradiction
  · rw [readNamedClass_of_head? hcolon] at h
    contradiction

/-- The operator that a text starts with. -/
def operator? : Text → Option (SetOperator × Text)
  | '&' :: '&' :: rest => some (.inter, rest)
  | '-' :: '-' :: rest => some (.diff, rest)
  | '~' :: '~' :: rest => some (.symm, rest)
  | _ => none

/-- What one round of reading a class leads to. -/
inductive Turn where
  /-- Some open brackets, the innermost first. -/
  | goOn (level : ClassLevel) (outer : List ClassLevel)
  /-- The class, closed. -/
  | closed (item : SetItem)

/-- One round of reading a class. -/
def turn? (m : Mode) (level : ClassLevel) (outer : List ClassLevel) (t : Text) :
    Option (Turn × Text) :=
  match t with
  | [] => none
  | '[' :: rest =>
    match readNamedClass m rest with
    | some (some s, rest) => some (.goOn (level.push s 0) outer, rest)
    | some (none, _) => none
    | none => (openClass m rest).map fun read => (.goOn read.1 (level :: outer), read.2)
  | ']' :: rest =>
    (m.negate? level.negated level.whole.set).map fun s =>
      match outer with
      | [] => (.closed ⟨s, 1 + level.whole.depth⟩, rest)
      | parent :: outer =>
        (.goOn { parent with items := ⟨s, 1 + level.whole.depth⟩ :: parent.items } outer, rest)
  | t =>
    match operator? t with
    | some (op, rest) => some (.goOn (level.operator op) outer, rest)
    | none => (readClassItem m t).map fun read => (.goOn (level.push read.1 0) outer, read.2)

/-- What starts with no bracket is an operator or an item. -/
theorem turn?_of_head? {level : ClassLevel} {outer : List ClassLevel}
    (hopen : t.head? ≠ some '[') (hclose : t.head? ≠ some ']') (hne : t ≠ []) :
  turn? m level outer t = match operator? t with
    | some (op, rest) => some (.goOn (level.operator op) outer, rest)
    | none => (readClassItem m t).map fun read => (.goOn (level.push read.1 0) outer, read.2)
  := by
  unfold turn?
  split
  · contradiction
  · exact absurd rfl hopen
  · exact absurd rfl hclose
  · rfl

theorem readClassLevels_succ (m : Mode) (fuel : Nat) (level : ClassLevel)
    (outer : List ClassLevel) (t : Text) :
  readClassLevels m (fuel + 1) level outer t
    = (turn? m level outer (m.skip t)).bind fun
      | (.goOn level outer, rest) => readClassLevels m fuel level outer rest
      | (.closed item, rest) => some (item, rest)
  := by
  rw [readClassLevels]
  split
  · next h => rw [h]; rfl
  · next rest h =>
    rw [h]
    simp only [turn?]
    rcases readNamedClass m rest with _ | ⟨_ | s, rest⟩
    · cases openClass m rest <;> rfl
    · rfl
    · rfl
  · next rest h =>
    rw [h]
    simp only [turn?]
    cases m.negate? level.negated level.whole.set with
    | none => rfl
    | some s => cases outer <;> rfl
  · next h => rw [h]; rfl
  · next h => rw [h]; rfl
  · next h => rw [h]; rfl
  · next hnil hopen hclose hinter hdiff hsymm =>
    generalize m.skip t = w at *
    have hoperator : operator? w = none := by
      unfold operator?
      split
      · exact (hinter _ rfl).elim
      · exact (hdiff _ rfl).elim
      · exact (hsymm _ rfl).elim
      · rfl
    have hhead : w.head? ≠ some '[' ∧ w.head? ≠ some ']' := by
      constructor
      · intro h
        obtain ⟨rest, rfl⟩ := List.head?_eq_some_iff.mp h
        exact hopen _ rfl
      · intro h
        obtain ⟨rest, rfl⟩ := List.head?_eq_some_iff.mp h
        exact hclose _ rfl
    rw [turn?_of_head? hhead.1 hhead.2 hnil, hoperator]
    cases readClassItem m w <;> rfl

theorem operator?_append (c : Char) (t u : Text) :
  operator? (c :: t ++ ')' :: u)
    = (operator? (c :: t)).map fun read => (read.1, read.2 ++ ')' :: u)
  := by
  cases t with
  | nil =>
    unfold operator?
    split <;> simp_all
  | cons d t =>
    unfold operator?
    split <;> simp_all

theorem suffix_of_operator? {op : SetOperator} (h : operator? t = some (op, r)) :
  r <:+ t.tail
  := by
  unfold operator? at h
  split at h
  case h_4 => contradiction
  all_goals
    obtain ⟨-, rfl⟩ := Prod.mk.inj (Option.some.inj h)
    apply List.suffix_cons

theorem suffix_of_turn? {level : ClassLevel} {outer : List ClassLevel} {turn : Turn}
    (h : turn? m level outer t = some (turn, r)) :
  r <:+ t.tail
  := by
  unfold turn? at h
  split at h
  · contradiction
  · next rest =>
    split at h
    · next hnamed =>
      obtain ⟨-, rfl⟩ := Prod.mk.inj (Option.some.inj h)
      exact suffix_of_readNamedClass hnamed
    · contradiction
    · obtain ⟨⟨inner, r'⟩, hinner, heq⟩ := Option.map_eq_some_iff.mp h
      obtain ⟨-, rfl⟩ := Prod.mk.inj heq
      exact suffix_of_openClass hinner
  · next rest =>
    obtain ⟨s, -, heq⟩ := Option.map_eq_some_iff.mp h
    cases outer with
    | nil =>
      obtain ⟨-, rfl⟩ := Prod.mk.inj heq
      apply List.suffix_rfl
    | cons parent outer =>
      obtain ⟨-, rfl⟩ := Prod.mk.inj heq
      apply List.suffix_rfl
  · split at h
    · next hoperator =>
      obtain ⟨-, rfl⟩ := Prod.mk.inj (Option.some.inj h)
      exact suffix_of_operator? hoperator
    · obtain ⟨⟨s, r'⟩, hitem, heq⟩ := Option.map_eq_some_iff.mp h
      obtain ⟨-, rfl⟩ := Prod.mk.inj heq
      exact suffix_of_readClassItem hitem

theorem turn?_of_append {level : ClassLevel} {outer : List ClassLevel} {turn : Turn}
    (h : turn? m level outer (t ++ ')' :: u) = some (turn, r ++ ')' :: u))
    (hr : m.skip r = [] → ∃ item, turn = .closed item) :
  turn? m level outer t = some (turn, r)
  := by
  have hgoOn : ∀ level outer, turn = .goOn level outer → m.skip r ≠ [] := by
    rintro level outer rfl hnil
    obtain ⟨item, hitem⟩ := hr hnil
    contradiction
  cases t with
  | nil => exact absurd (suffix_of_turn? h) not_suffix_self
  | cons c t =>
    by_cases hopen : c = '['
    · subst hopen
      simp only [List.cons_append, turn?, readNamedClass_append] at h ⊢
      rcases hnamed : readNamedClass m t with _ | ⟨_ | s, rest⟩
      · rw [hnamed] at h
        obtain ⟨⟨inner, r'⟩, hinner, heq⟩ := Option.map_eq_some_iff.mp h
        obtain ⟨rfl, rfl⟩ := Prod.mk.inj heq
        simp only [openClass_of_append hinner (hgoOn _ _ rfl), Option.map_some]
      · rw [hnamed] at h
        contradiction
      · rw [hnamed] at h
        obtain ⟨rfl, heq⟩ := Prod.mk.inj (Option.some.inj h)
        obtain rfl : rest = r := List.append_cancel_right heq
        rfl
    · by_cases hclose : c = ']'
      · subst hclose
        simp only [List.cons_append, turn?] at h ⊢
        obtain ⟨s, hs, heq⟩ := Option.map_eq_some_iff.mp h
        rw [hs]
        cases outer with
        | nil =>
          obtain ⟨rfl, hrest⟩ := Prod.mk.inj heq
          obtain rfl : t = r := List.append_cancel_right hrest
          rfl
        | cons parent outer =>
          obtain ⟨rfl, hrest⟩ := Prod.mk.inj heq
          obtain rfl : t = r := List.append_cancel_right hrest
          rfl
      · have hhead : ∀ s : Text, (c :: s).head? ≠ some '[' ∧ (c :: s).head? ≠ some ']' := by
          intro s
          simp [hopen, hclose]
        rw [List.cons_append, turn?_of_head? (hhead _).1 (hhead _).2 (List.cons_ne_nil _ _),
          ← List.cons_append, operator?_append] at h
        rw [turn?_of_head? (hhead _).1 (hhead _).2 (List.cons_ne_nil _ _)]
        rcases hoperator : operator? (c :: t) with _ | ⟨op, rest⟩
        · rw [hoperator] at h
          obtain ⟨⟨s, r'⟩, hitem, heq⟩ := Option.map_eq_some_iff.mp h
          obtain ⟨rfl, rfl⟩ := Prod.mk.inj heq
          simp only [readClassItem_of_append hitem (hgoOn _ _ rfl), Option.map_some]
        · rw [hoperator] at h
          obtain ⟨rfl, heq⟩ := Prod.mk.inj (Option.some.inj h)
          obtain rfl : rest = r := List.append_cancel_right heq
          rfl

theorem suffix_of_readClassLevels {fuel : Nat} {level : ClassLevel} {outer : List ClassLevel}
    {item : SetItem} (h : readClassLevels m fuel level outer t = some (item, r)) :
  r <:+ (m.skip t).tail
  := by
  induction fuel generalizing level outer t with
  | zero => contradiction
  | succ fuel ih =>
    rw [readClassLevels_succ] at h
    obtain ⟨⟨turn, rest⟩, hturn, hmore⟩ := Option.bind_eq_some_iff.mp h
    have hsuffix := suffix_of_turn? hturn
    cases turn with
    | goOn level outer =>
      apply (ih hmore).trans
      apply (List.tail_suffix _).trans ((m.skip_suffix rest).trans hsuffix)
    | closed item =>
      obtain ⟨-, rfl⟩ := Prod.mk.inj (Option.some.inj hmore)
      apply hsuffix

/-- A class that is closed before the parenthesis has something left there before. -/
theorem exists_append_of_readClassLevels {fuel : Nat} {level : ClassLevel}
    {outer : List ClassLevel} {item : SetItem}
    (h : readClassLevels m fuel level outer t = some (item, r ++ ')' :: u)) :
  ∃ w, t = w ++ ')' :: u ∧ m.skip w ≠ []
  := by
  have hsuffix := suffix_of_readClassLevels h
  have hskip := hsuffix.trans (List.tail_suffix _)
  obtain ⟨w, rfl⟩ := exists_append_of_suffix (hskip.trans (m.skip_suffix t))
  refine ⟨w, rfl, ?_⟩
  intro hnil
  rw [m.skip_append hskip, hnil] at hsuffix
  exact not_suffix_self hsuffix

theorem readClassLevels_of_append {fuel fuel' : Nat} {level : ClassLevel}
    {outer : List ClassLevel} {item : SetItem}
    (h : readClassLevels m fuel level outer (t ++ ')' :: u) = some (item, r ++ ')' :: u))
    (hfuel : t.length < fuel') :
  readClassLevels m fuel' level outer t = some (item, r)
  := by
  induction fuel generalizing level outer t fuel' with
  | zero => contradiction
  | succ fuel ih =>
    obtain ⟨fuel', rfl⟩ := Nat.exists_eq_add_one_of_ne_zero (Nat.ne_zero_of_lt hfuel)
    have hskip := m.skip_append ((suffix_of_readClassLevels h).trans (List.tail_suffix _))
    have hlength := (m.skip_suffix t).length_le
    rw [readClassLevels_succ, hskip] at h
    rw [readClassLevels_succ]
    obtain ⟨⟨turn, rest⟩, hturn, hmore⟩ := Option.bind_eq_some_iff.mp h
    cases turn with
    | goOn level outer =>
      obtain ⟨w, rfl, hne⟩ := exists_append_of_readClassLevels hmore
      have hturn' := turn?_of_append hturn (fun hnil => absurd hnil hne)
      have hpos : 0 < (m.skip t).length := by
        apply List.length_pos_iff.mpr
        intro hnil
        rw [hnil] at hturn'
        contradiction
      have hless := (suffix_of_turn? hturn').length_le
      rw [List.length_tail] at hless
      rw [hturn', Option.bind_some]
      exact ih hmore (by omega)
    | closed item =>
      obtain ⟨rfl, rfl⟩ := Prod.mk.inj (Option.some.inj hmore)
      rw [turn?_of_append hturn fun _ => ⟨item, rfl⟩]
      rfl

theorem suffix_of_readClass {item : SetItem} (h : readClass m t = some (item, r)) :
  r <:+ t
  := by
  unfold readClass at h
  split at h
  · next level rest hopen =>
    apply (suffix_of_readClassLevels h).trans
    apply (List.tail_suffix _).trans ((m.skip_suffix rest).trans (suffix_of_openClass hopen))
  · contradiction

theorem readClass_of_append {item : SetItem}
    (h : readClass m (t ++ ')' :: u) = some (item, r ++ ')' :: u)) :
  readClass m t = some (item, r)
  := by
  unfold readClass at h ⊢
  split at h
  · next level rest hopen =>
    obtain ⟨w, rfl, hne⟩ := exists_append_of_readClassLevels h
    have hopen' := openClass_of_append hopen hne
    have hless := (suffix_of_openClass hopen').length_le
    simp only [hopen']
    exact readClassLevels_of_append h (Nat.lt_succ_of_le hless)
  · contradiction

end DirectiveLint.Pattern
