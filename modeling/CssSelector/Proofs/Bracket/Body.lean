/-
  The grammar of what stands in brackets, apart from any way of reading it:

    body       = blanks name blanks comparison blanks 'i'? ']'
    comparison = (operator? '=' blanks value)?
    name       = unit unit*
    value      = q (a character but q and '\' | '\' and any character)* q, q a quotation mark
               | '#'? unit*

  The units may be chosen in any way (`Name.IsUnits`), and so the grammar is ambiguous:
  an `i` at the end may belong to the name, to the value or to nothing else, and so may the
  blank after an escape. The readers take as much as they can at each step and never
  go back. No text is lost by that (`IsBody.reads`): whatever was taken too far is
  one blank, which the grammar allows there in any case, or the `i`, which it does not ask for.
-/
import CssSelector.Proofs.Escape.Boundary
import CssSelector.Proofs.Name.Units
import CssSelector.Proofs.Replacement.Blank

namespace CssSelector

open Grammar

/-! ### Quotations -/

namespace Quotation

/-- What may stand between two marks. -/
inductive IsQuoted (mark : Char) : Text → Prop
  | nil : IsQuoted mark []
  | plain {c : Char} {s : Text} (hm : c ≠ mark) (hc : c ≠ '\\') (hs : IsQuoted mark s) :
      IsQuoted mark (c :: s)
  | escaped {c : Char} {s : Text} (hs : IsQuoted mark s) : IsQuoted mark ('\\' :: c :: s)

theorem split?_of_isQuoted {mark : Char} (hm : mark ≠ '\\') {s : Text} (h : IsQuoted mark s)
    (r : Text) : split? mark (s ++ mark :: r) = some (s, r) := by
  induction h with
  | nil => exact split?_mark mark r
  | plain hcm hc _ ih => rw [List.cons_append, split?_plain hcm hc, ih, Option.map_some]
  | escaped _ ih =>
    rw [List.cons_append, List.cons_append, split?_backslash hm, ih, Option.map_some]

theorem isQuoted_of_split? {mark : Char} {s body rest : Text}
    (h : split? mark s = some (body, rest)) : IsQuoted mark body := by
  fun_induction split? mark s generalizing body rest with
  | case1 => cases h
  | case2 =>
    obtain ⟨rfl, -⟩ := Prod.mk.inj (Option.some.inj h)
    exact .nil
  | case3 => cases h
  | case4 d r hm ih =>
    obtain ⟨⟨b, t⟩, hb, e⟩ := Option.map_eq_some_iff.1 h
    obtain ⟨rfl, -⟩ := Prod.mk.inj e
    exact .escaped (ih hb)
  | case5 c s hm hc ih =>
    obtain ⟨⟨b, t⟩, hb, e⟩ := Option.map_eq_some_iff.1 h
    obtain ⟨rfl, -⟩ := Prod.mk.inj e
    exact .plain hm hc (ih hb)

end Quotation

namespace Bracket

open Name (IsUnits IsTrail)

/-! ### The grammar -/

/-- The signs that may stand before an equals sign, and what they say. -/
def operators : List (Char × AttributeAction) :=
  [('~', .element), ('^', .starts), ('$', .ends), ('*', .anywhere), ('!', .differs), ('|', .hyphen)]

/-- A value: what is between its quotation marks, and all of it. -/
inductive IsValue : Text → Text → Prop
  | quoted {mark : Char} {v : Text} (hm : isQuote mark) (hv : Quotation.IsQuoted mark v) :
      IsValue v (mark :: v ++ [mark])
  | units {n : Text} (hn : IsUnits n) : IsValue n n
  | hash {n : Text} (hn : IsUnits n) : IsValue ('#' :: n) ('#' :: n)

/-- A comparison: how it compares, the value without quotation marks, and all of it. -/
inductive IsComparison : AttributeAction → Text → Text → Prop
  | none : IsComparison .present [] []
  | equals {b v w : Text} (hb : IsBlanks b) (hv : IsValue v w) :
      IsComparison .equals v ('=' :: (b ++ w))
  | operator {c : Char} {action : AttributeAction} {b v w : Text} (hc : (c, action) ∈ operators)
      (hb : IsBlanks b) (hv : IsValue v w) : IsComparison action v (c :: '=' :: (b ++ w))

/-- The marks at the end of an attribute. -/
def endMarks (ignoreCase : Bool) : Text :=
  if ignoreCase then ['i', ']'] else [']']

/-- The end of an attribute, all of it. -/
inductive IsEnding (ignoreCase : Bool) : Text → Prop
  | intro {b : Text} (hb : IsBlanks b) : IsEnding ignoreCase (b ++ endMarks ignoreCase)

/-- The parts of an attribute in brackets. -/
structure Parts where
  /-- The name, as it is written. -/
  name : Text
  action : AttributeAction
  /-- The value, as it is written, without quotation marks. -/
  value : Text
  ignoreCase : Bool

namespace Parts

/-- The token that the parts are written for. -/
def token (o : Options) (a : Parts) : Token :=
  .attr (o.attributeName (unescape a.name)) a.action (unescape a.value) a.ignoreCase

def warnings (a : Parts) : List Warning :=
  Warning.ofText a.name ++ Warning.ofText a.value

/-- The parts `a` are `b` with possibly more in the name and in the value, the flag included. -/
structure Exceeds (a b : Parts) : Prop where
  name : b.name <+: a.name
  action : a.action = b.action
  value : b.value <+: a.value
  ignoreCase : a.ignoreCase → b.ignoreCase

end Parts

/-- All that stands between the opening bracket and the closing one, the closing one included. -/
inductive IsBody : Parts → Text → Prop
  | intro {a : Parts} {b d c e : Text} (hb : IsBlanks b) (hn : IsUnits a.name) (hne : a.name ≠ [])
      (hd : IsBlanks d) (hc : IsComparison a.action a.value c) (he : IsEnding a.ignoreCase e) :
      IsBody a (b ++ (a.name ++ (d ++ (c ++ e))))

theorem mem_operators_iff {c : Char} {action : AttributeAction} :
    (c, action) ∈ operators ↔ AttributeAction.ofOperator? c = some action := by
  constructor
  · intro h
    simp only [operators, List.mem_cons, Prod.mk.injEq, List.not_mem_nil, or_false] at h
    rcases h with ⟨rfl, rfl⟩ | ⟨rfl, rfl⟩ | ⟨rfl, rfl⟩ | ⟨rfl, rfl⟩ | ⟨rfl, rfl⟩ | ⟨rfl, rfl⟩ <;>
      rfl
  · intro h
    unfold AttributeAction.ofOperator? at h
    split_ifs at h <;> simp_all [operators]

/-! ### What is read derives from the grammar -/

/-- The three steps of reading an attribute: its parts, and what follows it. -/
def Reads (s : Text) (a : Parts) (r : Text) : Prop :=
  ∃ u q, IsName (skipBlanks s) a.name u ∧ comparison? (skipBlanks u) = some (a.action, a.value, q) ∧
    ending? q = some (a.ignoreCase, r)

theorem read?_eq_some_iff_reads {o : Options} {s r : Text} {t : Token} {ws : List Warning} :
    read? o s = some ⟨t, ws, r⟩ ↔ ∃ a, Reads s a r ∧ t = a.token o ∧ ws = a.warnings := by
  rw [read?_eq_some_iff]
  constructor
  · rintro ⟨n, u, action, v, q, ignoreCase, hn, hc, he, rfl, rfl⟩
    exact ⟨⟨n, action, v, ignoreCase⟩, ⟨u, q, hn, hc, he⟩, rfl, rfl⟩
  · rintro ⟨a, ⟨u, q, hn, hc, he⟩, rfl, rfl⟩
    exact ⟨_, u, _, _, q, _, hn, hc, he, rfl, rfl⟩

/-- Reading has one outcome. -/
theorem Reads.unique {s r r' : Text} {a b : Parts} (ha : Reads s a r) (hb : Reads s b r') :
    a = b ∧ r = r' := by
  obtain ⟨u, q, hn, hc, he⟩ := ha
  obtain ⟨u', q', hn', hc', he'⟩ := hb
  -- each step is a function of what the step before it leaves
  obtain ⟨hname, rfl⟩ := Prod.mk.inj (hn.split_eq.symm.trans hn'.split_eq)
  obtain ⟨haction, hrest⟩ := Prod.mk.inj (Option.some.inj (hc.symm.trans hc'))
  obtain ⟨hvalue, rfl⟩ := Prod.mk.inj hrest
  obtain ⟨hflag, rfl⟩ := Prod.mk.inj (Option.some.inj (he.symm.trans he'))
  cases a
  cases b
  obtain rfl := hname
  obtain rfl := haction
  obtain rfl := hvalue
  obtain rfl := hflag
  exact ⟨rfl, rfl⟩

theorem exists_isBlanks (s : Text) : ∃ b, IsBlanks b ∧ b ++ skipBlanks s = s :=
  ⟨_, isBlanks_takeWhile s, takeWhile_append_skipBlanks s⟩

theorem exists_isEnding {s r : Text} {ignoreCase : Bool} (h : ending? s = some (ignoreCase, r)) :
    ∃ e, IsEnding ignoreCase e ∧ e ++ r = s := by
  obtain ⟨b, hb, hs⟩ := exists_isBlanks s
  refine ⟨_, .intro hb, ?_⟩
  rw [← hs, ending?_eq_some_iff.1 h, List.append_assoc]
  cases ignoreCase <;> rfl

theorem exists_isValue {s v r : Text} (h : value? s = some (v, r)) :
    ∃ b w, IsBlanks b ∧ IsValue v w ∧ b ++ w ++ r = s := by
  obtain ⟨b, hb, hs⟩ := exists_isBlanks s
  suffices hw : ∃ w, IsValue v w ∧ w ++ r = skipBlanks s by
    obtain ⟨w, hw, hr⟩ := hw
    exact ⟨b, w, hb, hw, by rw [List.append_assoc, hr, hs]⟩
  have hhead := head_skipBlanks s
  rw [← value?_skipBlanks] at h
  generalize skipBlanks s = q at h hhead
  -- a quotation mark, a hash, or neither
  by_cases hq : q.head?.any isQuote
  · obtain ⟨c, t, rfl⟩ : ∃ c t, q = c :: t := List.exists_cons_of_ne_nil fun e => by simp [e] at hq
    have hc : isQuote c := by simpa using hq
    rw [value?_quote hc] at h
    refine ⟨_, .quoted hc (Quotation.isQuoted_of_split? h), ?_⟩
    simp [← Quotation.append_split? h]
  · by_cases hh : q.head? = some '#'
    · obtain ⟨t, rfl⟩ : ∃ t, q = '#' :: t := List.head?_eq_some_iff.1 hh
      rw [value?_hash] at h
      obtain ⟨rfl, rfl⟩ := Prod.mk.inj (Option.some.inj h)
      exact ⟨_, .hash (Name.isUnits_split_fst t), by rw [List.cons_append, Name.split_append]⟩
    · rw [value?_plain hhead (Bool.eq_false_iff.2 hq) hh] at h
      have hsplit := Option.some.inj h
      obtain rfl : (Name.split q).1 = v := congrArg Prod.fst hsplit
      obtain rfl : (Name.split q).2 = r := congrArg Prod.snd hsplit
      exact ⟨_, .units (Name.isUnits_split_fst q), Name.split_append q⟩

theorem exists_isComparison {s v r : Text} {action : AttributeAction}
    (h : comparison? s = some (action, v, r)) : ∃ c, IsComparison action v c ∧ c ++ r = s := by
  rcases comparison?_cases h with ⟨rfl, rfl, rfl⟩ | ⟨t, rfl, rfl, hv⟩ | ⟨c, t, rfl, hc, hv⟩
  · exact ⟨[], .none, rfl⟩
  · obtain ⟨b, w, hb, hw, rfl⟩ := exists_isValue hv
    exact ⟨_, .equals hb hw, rfl⟩
  · obtain ⟨b, w, hb, hw, rfl⟩ := exists_isValue hv
    exact ⟨_, .operator (mem_operators_iff.2 hc) hb hw, rfl⟩

/-- What is read derives from the grammar. -/
theorem Reads.exists_isBody {s r : Text} {a : Parts} (h : Reads s a r) :
    ∃ p, IsBody a p ∧ p ++ r = s := by
  obtain ⟨u, q, hn, hc, he⟩ := h
  obtain ⟨b, hb, hs⟩ := exists_isBlanks s
  obtain ⟨d, hd, hu⟩ := exists_isBlanks u
  obtain ⟨c, hc, hcq⟩ := exists_isComparison hc
  obtain ⟨e, he, her⟩ := exists_isEnding he
  have hname : IsUnits a.name := by
    have := Name.isUnits_split_fst (skipBlanks s)
    rwa [hn.split_eq] at this
  refine ⟨_, .intro hb hname hn.ne_nil hd hc he, ?_⟩
  calc b ++ (a.name ++ (d ++ (c ++ e))) ++ r = b ++ (a.name ++ (d ++ (c ++ (e ++ r)))) := by simp
    _ = b ++ (a.name ++ u) := by rw [her, hcq, hu]
    _ = s := by rw [hn.append_eq, hs]

/-! ### What derives from the grammar is read -/

/-- The end of an attribute is read from `s` on, and the flag only where `ignoreCase` has it. -/
def Ends (ignoreCase : Bool) (s r : Text) : Prop :=
  ∃ flag, ending? s = some (flag, r) ∧ (flag → ignoreCase)

/-- A comparison and the end of an attribute are read from `s` on, with at least the value `v`. -/
def Compares (action : AttributeAction) (v : Text) (ignoreCase : Bool) (s r : Text) : Prop :=
  ∃ w q, comparison? (skipBlanks s) = some (action, w, q) ∧ v <+: w ∧ Ends ignoreCase q r

theorem split_of_not_startsName {c : Char} (hc : startsName c = false) (s : Text) :
    Name.split (c :: s) = ([], c :: s) :=
  Name.split_eq_of_fst_eq_nil (split_cons_of_not_startsName hc s)

/-- What starts with no digit after its blanks starts with no digit. -/
theorem head_isHexDigit_append {b s : Text} (hb : IsBlanks b)
    (hs : s.head?.any isHexDigit = false) : (b ++ s).head?.any isHexDigit = false := by
  cases b with
  | nil => exact hs
  | cons c b => exact Escape.isHexDigit_of_isBlank (isBlanks_of_cons hb).1

/-- Units take in at most one of the blanks that follow them, if no digit does. -/
theorem exists_split_units {n b s : Text} (hn : IsUnits n) (hb : IsBlanks b)
    (hblank : s.head?.any isBlank = false) (hhex : s.head?.any isHexDigit = false) :
    ∃ m d, IsBlanks d ∧ n <+: m ++ (Name.split (d ++ s)).1 ∧
      Name.split (n ++ (b ++ s)) = (m ++ (Name.split (d ++ s)).1, (Name.split (d ++ s)).2) := by
  obtain ⟨d, x, hd, htail, hsplit⟩ := Name.exists_split_append hn (b ++ s)
  have hlong : n <+: n ++ d ++ (Name.split x).1 := by
    rw [List.append_assoc]
    exact List.prefix_append _ _
  have hhead := head_isHexDigit_append hb hhex
  cases hd with
  | nil =>
    obtain rfl : b ++ s = x := htail
    exact ⟨_, b, hb, hlong, hsplit⟩
  | @blank c hc =>
    cases b with
    | nil =>
      obtain rfl : s = c :: x := htail
      simp [hc] at hblank
    | cons e b =>
      obtain ⟨-, rfl⟩ := List.cons.inj htail
      exact ⟨_, b, (isBlanks_of_cons hb).2, hlong, hsplit⟩
  | digit hc =>
    -- the digit would start what follows the units
    rw [htail] at hhead
    simp [hc] at hhead

theorem head_endMarks (ignoreCase : Bool) (r : Text) :
    (endMarks ignoreCase ++ r).head?.any isBlank = false ∧
      (endMarks ignoreCase ++ r).head?.any isHexDigit = false := by
  cases ignoreCase <;> exact ⟨rfl, rfl⟩

theorem ending?_append_endMarks {b : Text} (hb : IsBlanks b) (ignoreCase : Bool) (r : Text) :
    ending? (b ++ (endMarks ignoreCase ++ r)) = some (ignoreCase, r) := by
  rw [ending?_eq_some_iff, skipBlanks_append hb]
  cases ignoreCase <;> exact skipBlanks_of_not_isBlank (by decide) _

/-- The end is still read after the name in front of it, which is the flag at most. -/
theorem ends_split {b : Text} (hb : IsBlanks b) (ignoreCase : Bool) (r : Text) :
    Ends ignoreCase (Name.split (b ++ (endMarks ignoreCase ++ r))).2 r := by
  have key (h : Name.split (b ++ (endMarks ignoreCase ++ r)) =
      ([], b ++ (endMarks ignoreCase ++ r))) :
      Ends ignoreCase (Name.split (b ++ (endMarks ignoreCase ++ r))).2 r := by
    rw [h]
    exact ⟨ignoreCase, ending?_append_endMarks hb ignoreCase r, id⟩
  cases b with
  | cons c b =>
    have hc := startsName_of_isBlank (isBlanks_of_cons hb).1
    exact key (split_of_not_startsName hc _)
  | nil =>
    cases ignoreCase with
    | false => exact key (split_of_not_startsName (by decide) r)
    | true =>
      -- the flag is taken for a name, and the bracket after it is left
      refine ⟨false, ?_, fun h => absurd h Bool.false_ne_true⟩
      show ending? (Name.split ('i' :: ']' :: r)).2 = some (false, r)
      rw [Name.split_plain (by decide) (by decide), split_of_not_startsName (by decide)]
      exact ending?_append_endMarks isBlanks_nil false r

/-- The flag is no value and no comparison by itself. -/
theorem Ends.compares {ignoreCase : Bool} {s r : Text} (h : Ends ignoreCase s r) :
    Compares .present [] ignoreCase s r := by
  obtain ⟨flag, he, hflag⟩ := h
  have he' : ending? (skipBlanks s) = some (flag, r) := by
    rw [ending?_eq_some_iff, skipBlanks, skipBlanks, List.dropWhile_idempotent]
    exact ending?_eq_some_iff.1 he
  exact ⟨[], _, comparison?_of_ending? he', List.nil_prefix, flag, he', hflag⟩

/-- Units before the end of an attribute are read, with more or fewer of the characters there. -/
theorem exists_split_ends {n e : Text} {ignoreCase : Bool} (hn : IsUnits n)
    (he : IsEnding ignoreCase e) (r : Text) :
    ∃ m q, Name.split (n ++ (e ++ r)) = (m, q) ∧ n <+: m ∧ Ends ignoreCase q r := by
  obtain ⟨hb⟩ := he
  obtain ⟨hblank, hhex⟩ := head_endMarks ignoreCase r
  obtain ⟨m, d, hd, hlong, hsplit⟩ := exists_split_units hn hb hblank hhex
  rw [List.append_assoc]
  exact ⟨_, _, hsplit, hlong, ends_split hd ignoreCase r⟩

theorem value?_append {b : Text} (hb : IsBlanks b) (s : Text) : value? (b ++ s) = value? s := by
  rw [← value?_skipBlanks, skipBlanks_append hb, value?_skipBlanks]

/-- A value before the end of an attribute is read, with possibly more than it has. -/
theorem exists_value? {v w e : Text} {ignoreCase : Bool} (hv : IsValue v w)
    (he : IsEnding ignoreCase e) (r : Text) :
    ∃ v' q, value? (w ++ (e ++ r)) = some (v', q) ∧ v <+: v' ∧ Ends ignoreCase q r := by
  cases hv with
  | @quoted mark _ hm hv =>
    have hback := Quotation.ne_backslash_of_isQuote hm
    obtain ⟨hb⟩ := he
    refine ⟨v, _, ?_, List.prefix_rfl, ignoreCase, ending?_append_endMarks hb ignoreCase r, id⟩
    rw [List.cons_append, List.cons_append, value?_quote hm, List.append_assoc, List.append_assoc]
    exact Quotation.split?_of_isQuoted hback hv _
  | hash hn =>
    obtain ⟨m, q, hsplit, hlong, hends⟩ := exists_split_ends hn he r
    refine ⟨'#' :: m, q, ?_, (List.prefix_cons_inj '#').2 hlong, hends⟩
    rw [List.cons_append, value?_hash, hsplit]
  | units hn =>
    by_cases hne : v = []
    · -- an empty value: the blanks are skipped, and the flag would be the value
      subst hne
      obtain ⟨hb⟩ := he
      have hvalue : value? (endMarks ignoreCase ++ r) =
          some (Name.split (endMarks ignoreCase ++ r)) := by
        cases ignoreCase <;> exact value?_plain rfl rfl (by simp [endMarks])
      refine ⟨(Name.split (endMarks ignoreCase ++ r)).1, _, ?_, List.nil_prefix,
        ends_split isBlanks_nil ignoreCase r⟩
      rw [List.nil_append, List.append_assoc, value?_append hb]
      exact hvalue
    · obtain ⟨c, k, rfl, hc⟩ := hn.startsName hne
      have hitem := startsItem_of_startsName hc
      have hhash : c ≠ '#' := by
        rintro rfl
        cases hc
      obtain ⟨m, q, hsplit, hlong, hends⟩ := exists_split_ends hn he r
      refine ⟨m, q, ?_, hlong, hends⟩
      rw [← hsplit]
      exact value?_plain (isBlank_of_startsItem hitem) (isQuote_of_startsItem hitem)
        (by simpa using hhash)

/-- A comparison starts with a mark of its own. -/
theorem IsComparison.exists_cons {action : AttributeAction} {v c : Text}
    (h : IsComparison action v c) (hne : c ≠ []) :
    ∃ k t, c = k :: t ∧ isBlank k = false ∧ isHexDigit k = false ∧ startsName k = false := by
  cases h with
  | none => exact absurd rfl hne
  | equals => exact ⟨_, _, rfl, by decide⟩
  | @operator k _ _ _ _ hk =>
    refine ⟨k, _, rfl, ?_⟩
    simp only [operators, List.mem_cons, Prod.mk.injEq, List.not_mem_nil, or_false] at hk
    rcases hk with ⟨rfl, -⟩ | ⟨rfl, -⟩ | ⟨rfl, -⟩ | ⟨rfl, -⟩ | ⟨rfl, -⟩ | ⟨rfl, -⟩ <;> decide

/-- A comparison that is there is read. -/
theorem IsComparison.compares {action : AttributeAction} {v c e b : Text} {ignoreCase : Bool}
    (hc : IsComparison action v c) (hne : c ≠ []) (he : IsEnding ignoreCase e) (hb : IsBlanks b)
    (r : Text) : Compares action v ignoreCase (b ++ (c ++ (e ++ r))) r := by
  obtain ⟨k, t, hk, hblank, -⟩ := hc.exists_cons hne
  have hskip : skipBlanks (b ++ (c ++ (e ++ r))) = c ++ (e ++ r) := by
    rw [skipBlanks_append hb, hk]
    exact skipBlanks_of_not_isBlank (by simp [hblank]) _
  unfold Compares
  rw [hskip]
  cases hc with
  | none => exact absurd rfl hne
  | equals hb' hv =>
    obtain ⟨v', q, hvalue, hlong, hends⟩ := exists_value? hv he r
    refine ⟨v', q, ?_, hlong, hends⟩
    rw [List.cons_append, List.append_assoc]
    apply comparison?_equals
    rw [value?_append hb', hvalue]
  | operator hop hb' hv =>
    obtain ⟨v', q, hvalue, hlong, hends⟩ := exists_value? hv he r
    refine ⟨v', q, ?_, hlong, hends⟩
    rw [List.cons_append, List.cons_append, List.append_assoc]
    apply comparison?_operator (mem_operators_iff.1 hop)
    rw [value?_append hb', hvalue]

/-- A name before what else an attribute has is read, with possibly more than it has. -/
theorem exists_split_compares {n d v c e : Text} {action : AttributeAction} {ignoreCase : Bool}
    (hn : IsUnits n) (hd : IsBlanks d) (hc : IsComparison action v c) (he : IsEnding ignoreCase e)
    (r : Text) :
    ∃ m q, Name.split (n ++ (d ++ (c ++ (e ++ r)))) = (m, q) ∧ n <+: m ∧
      Compares action v ignoreCase q r := by
  by_cases hne : c = []
  · -- nothing is compared: the blanks on both sides of nothing are one run
    subst hne
    cases hc
    obtain ⟨hb⟩ := he
    obtain ⟨m, q, hsplit, hlong, hends⟩ :=
      exists_split_ends hn (.intro (isBlanks_append hd hb)) r
    refine ⟨m, q, ?_, hlong, hends.compares⟩
    rw [← hsplit]
    simp
  · obtain ⟨k, t, hk, hblank, hhex, hname⟩ := hc.exists_cons hne
    have hs : c ++ (e ++ r) = k :: (t ++ (e ++ r)) := by rw [hk, List.cons_append]
    obtain ⟨m, b, hb, hlong, hsplit⟩ :=
      exists_split_units hn hd (s := c ++ (e ++ r)) (by simp [hs, hblank]) (by simp [hs, hhex])
    have hstop : Name.split (b ++ (c ++ (e ++ r))) = ([], b ++ (c ++ (e ++ r))) := by
      cases b with
      | nil =>
        rw [hs]
        exact split_of_not_startsName hname _
      | cons b₀ b =>
        exact split_of_not_startsName (startsName_of_isBlank (isBlanks_of_cons hb).1) _
    refine ⟨_, _, hsplit, hlong, ?_⟩
    rw [hstop]
    exact hc.compares hne he hb r

/-- **What derives from the grammar is read**, with no text lost. -/
theorem IsBody.reads {b : Parts} {p : Text} (h : IsBody b p) (r : Text) :
    ∃ a, Reads (p ++ r) a r ∧ a.Exceeds b := by
  obtain ⟨hblanks, hn, hne, hd, hc, he⟩ := h
  obtain ⟨m, u, hsplit, hlong, v, q, hcompare, hvalue, flag, hending, hflag⟩ :=
    exists_split_compares hn hd hc he r
  refine ⟨⟨m, b.action, v, flag⟩, ⟨u, q, ⟨?_, ?_⟩, hcompare, hending⟩,
    ⟨hlong, rfl, hvalue, hflag⟩⟩
  · obtain ⟨c, k, hname, hstart⟩ := hn.startsName hne
    have hblank := isBlank_of_startsItem (startsItem_of_startsName hstart)
    rw [← hsplit, List.append_assoc, skipBlanks_append hblanks, hname]
    simp [skipBlanks_of_not_isBlank, hblank]
  · rintro rfl
    exact hne (List.prefix_nil.1 hlong)

/-! ### The readers and the grammar -/

variable {o : Options} {t : Text}

theorem readBracket_eq_lexeme_iff {reading : Reading Lexeme} :
    readBracket o t = .lexeme reading ↔
      ∃ a, Reads t a reading.rest ∧ reading.value = .token (a.token o) ∧
        reading.warnings = a.warnings := by
  obtain ⟨lexeme, ws, r⟩ := reading
  unfold readBracket
  constructor
  · intro h
    split at h
    next => cases h
    next reading' hread =>
      obtain ⟨u, vs, q⟩ := reading'
      obtain ⟨rfl, rfl, rfl⟩ := Reading.mk.inj (Front.lexeme.inj h)
      obtain ⟨a, ha, rfl, rfl⟩ := read?_eq_some_iff_reads.1 hread
      exact ⟨a, ha, rfl, rfl⟩
  · rintro ⟨a, ha, rfl, rfl⟩
    rw [read?_eq_some_iff_reads.2 ⟨a, ha, rfl, rfl⟩]

theorem readBracket_eq_lexeme_or (o : Options) (t : Text) :
    (∃ reading, readBracket o t = .lexeme reading) ∨
      readBracket o t = .fault ⟨.malformedAttribute, t⟩ := by
  unfold readBracket
  split
  · exact .inr rfl
  · exact .inl ⟨_, rfl⟩

/-- What starts with something that derives from the grammar is read. -/
theorem exists_readBracket {b : Parts} {p : Text} (hb : IsBody b p) (hp : p <+: t) :
    ∃ reading, readBracket o t = .lexeme reading := by
  obtain ⟨r, rfl⟩ := hp
  obtain ⟨a, ha, -⟩ := hb.reads r
  exact ⟨⟨.token (a.token o), a.warnings, r⟩, readBracket_eq_lexeme_iff.2 ⟨a, ha, rfl, rfl⟩⟩

/-- Whatever derives from the grammar at the front of a text is as long as what is read there. -/
theorem Reads.exceeds {a b : Parts} {p q r : Text} (ha : Reads t a r) (hp : p ++ r = t)
    (hb : IsBody b q) (hq : q <+: t) : q = p ∧ a.Exceeds b := by
  obtain ⟨r', rfl⟩ := hq
  obtain ⟨a', ha', hexceeds⟩ := hb.reads r'
  obtain ⟨rfl, rfl⟩ := ha.unique ha'
  exact ⟨(List.append_cancel_right hp).symm, hexceeds⟩

/-- **An attribute in brackets is read iff some text at the front derives from the grammar.** That
text is the only one, and it is what is read, with the longest name and the longest value. -/
theorem readBracket_spec (o : Options) (t : Text) :
    ((∃ reading, readBracket o t = .lexeme reading) ↔ ∃ b p, IsBody b p ∧ p <+: t) ∧
    ((¬ ∃ b p, IsBody b p ∧ p <+: t) → readBracket o t = .fault ⟨.malformedAttribute, t⟩) ∧
    ∀ reading, readBracket o t = .lexeme reading →
      ∃ a p, IsBody a p ∧ p ++ reading.rest = t ∧
        reading.value = .token (a.token o) ∧ reading.warnings = a.warnings ∧
        ∀ b q, IsBody b q → q <+: t → q = p ∧ a.Exceeds b := by
  have sound (reading : Reading Lexeme) (h : readBracket o t = .lexeme reading) :
      ∃ a p, IsBody a p ∧ p ++ reading.rest = t ∧
        reading.value = .token (a.token o) ∧ reading.warnings = a.warnings ∧
        ∀ b q, IsBody b q → q <+: t → q = p ∧ a.Exceeds b := by
    obtain ⟨a, ha, hvalue, hwarnings⟩ := readBracket_eq_lexeme_iff.1 h
    obtain ⟨p, hbody, hp⟩ := ha.exists_isBody
    exact ⟨a, p, hbody, hp, hvalue, hwarnings, fun b q hb hq => ha.exceeds hp hb hq⟩
  have complete : (∃ b p, IsBody b p ∧ p <+: t) → ∃ reading, readBracket o t = .lexeme reading := by
    rintro ⟨b, p, hb, hp⟩
    exact exists_readBracket hb hp
  refine ⟨⟨?_, complete⟩, ?_, sound⟩
  · rintro ⟨reading, h⟩
    obtain ⟨a, p, hbody, hp, -⟩ := sound reading h
    exact ⟨a, p, hbody, reading.rest, hp⟩
  · intro hnone
    rcases readBracket_eq_lexeme_or o t with ⟨reading, h⟩ | h
    · obtain ⟨a, p, hbody, hp, -⟩ := sound reading h
      exact absurd ⟨a, p, hbody, reading.rest, hp⟩ hnone
    · exact h

/-- In `a= i]` the letter may be the flag after an empty value, and it is the value; before an
equals sign it is neither. -/
theorem readBracket_spec_flag :
    IsBody ⟨['a'], .equals, [], true⟩ "a= i]".toList ∧
    (∃ a p, IsBody a p ∧ p ++ ">b".toList = "a= i]>b".toList ∧
      a.token {} = .attr ['a'] .equals ['i'] false ∧ a.Exceeds ⟨['a'], .equals, [], true⟩) ∧
    readBracket {} "a i=b]".toList = .fault ⟨.malformedAttribute, "a i=b]".toList⟩ := by
  have hname : IsUnits ['a'] := .cons (.char (by decide)) .nil
  have hblank : IsBlanks [' '] := by simp [IsBlanks, isBlank]
  have hc : IsComparison .equals [] ['='] := .equals isBlanks_nil (.units .nil)
  have he : IsEnding true [' ', 'i', ']'] := .intro hblank
  have hbody : IsBody ⟨['a'], .equals, [], true⟩ "a= i]".toList := by
    exact IsBody.intro (a := ⟨['a'], .equals, [], true⟩) isBlanks_nil hname (by simp) isBlanks_nil
      hc he
  have hread : readBracket {} "a= i]>b".toList =
      .lexeme ⟨.token (.attr ['a'] .equals ['i'] false), [], ">b".toList⟩ := by decide +kernel
  refine ⟨hbody, ?_, ?_⟩
  · obtain ⟨-, -, hspec⟩ := readBracket_spec {} "a= i]>b".toList
    obtain ⟨a, p, ha, hp, hvalue, -, hall⟩ := hspec _ hread
    exact ⟨a, p, ha, hp, (Lexeme.token.inj hvalue).symm, (hall _ _ hbody ⟨">b".toList, rfl⟩).2⟩
  · obtain ⟨hiff, hnone, -⟩ := readBracket_spec {} "a i=b]".toList
    refine hnone fun h => ?_
    obtain ⟨reading, hreading⟩ := hiff.2 h
    have hfault : readBracket {} "a i=b]".toList =
        .fault ⟨.malformedAttribute, "a i=b]".toList⟩ := by decide +kernel
    cases hfault.symm.trans hreading

end Bracket

end CssSelector
