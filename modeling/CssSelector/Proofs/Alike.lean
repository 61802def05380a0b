/-
  Texts that are written differently and read alike.

  A name may be spelled in many ways: with escapes or without, and if it is one of a
  pseudo-class or pseudo-element, in capital or in small letters. Whatever follows the name, its
  spelling decides neither what is read nor what is wrong (`parse_respell`); the digits of an
  escape may call for a warning, so the warnings can differ. The marks `.` and `#` are short
  for attributes in brackets, and here the warnings are the same as well
  (`parseWithWarnings_shorthand`).

  Both rest on the front of the text alone. The text of a lexeme is used for nothing but the place
  of an error, and no token is refused after a coherent list, so two texts with
  the same token in front, or the same fault, lead to the same end
  (`Assembly.map_fst_run_of_alike`).
-/
import CssSelector.Proofs.Replacement.Lexeme
import CssSelector.Proofs.Run
import CssSelector.Proofs.Written.Parse

namespace CssSelector

open Grammar

variable {o : Options}

/-! ### Fronts -/

/-- The fronts of two texts are the same token or the same opening before the same text, or the same
fault. They may call for different warnings. -/
inductive Front.Alike : Front → Front → Prop
  | token {t : Token} {ws vs : List Warning} {r : Text} :
      Alike (.lexeme ⟨.token t, ws, r⟩) (.lexeme ⟨.token t, vs, r⟩)
  | opening {name : Text} {ws vs : List Warning} {r : Text} :
      Alike (.lexeme ⟨.opening name, ws, r⟩) (.lexeme ⟨.opening name, vs, r⟩)
  | fault {e : Error} : Alike (.fault e) (.fault e)

/-- What follows the name of a pseudo-class is read in the same way after other warnings. -/
theorem Pseudo.afterName_alike (name : Text) (ws vs : List Warning) (s : Text) :
    (afterName name ws s).Alike (afterName name vs s) := by
  unfold afterName
  split
  next => exact .token
  next c r =>
    split
    next => exact .token
    next =>
      split
      next =>
        split
        next => exact .fault
        next => exact .opening
      next =>
        split
        next => exact .fault
        next => exact .token

theorem Grammar.IsToken.front_alike {s s' r : Text} {t : Token} {ws vs : List Warning}
    (h : IsToken o s t ws r) (h' : IsToken o s' t vs r) : (front o s).Alike (front o s') := by
  rw [front_of_isToken h, front_of_isToken h']
  exact .token

namespace Assembly

variable {l : OpenList} {E : List (Text × OpenList)} {s s' r : Text}

/-- The warnings that were given before have no effect on what is read. -/
theorem map_fst_run (a : Assembly) (ws vs : List Warning) (s : Text) :
    (run o a ws s).map Prod.fst = (run o a vs s).map Prod.fst := by
  unfold run
  cases (lex o s).words.foldlM read a >>= fun b => b.conclude (lex o s).ending <;> rfl

theorem run_of_isLexeme_opening {name : Text} {ws vs : List Warning} (hl : l.Coherent)
    (h : IsLexeme o s (.opening name) vs r) :
    run o ⟨l, E⟩ ws s = run o ⟨.empty, (name, l.joined) :: E⟩ (ws ++ vs) r := by
  cases h with
  | opening hn ht hq => exact run_opening hl hn ht hq

/-- **Only what is at the front of a text counts**, not how it is written. -/
theorem map_fst_run_of_alike (hl : l.Coherent) (h : (front o s).Alike (front o s'))
    (ws vs : List Warning) :
    (run o ⟨l, E⟩ ws s).map Prod.fst = (run o ⟨l, E⟩ vs s').map Prod.fst := by
  generalize hf : front o s = f at h
  generalize hf' : front o s' = f' at h
  cases h with
  | token =>
    cases front_eq_lexeme_iff.1 hf with
    | token ht =>
      cases front_eq_lexeme_iff.1 hf' with
      | token ht' =>
        rw [run_token hl ht, run_token hl ht']
        exact map_fst_run _ _ _ _
  | opening =>
    have ho := front_eq_lexeme_iff.1 hf
    have ho' := front_eq_lexeme_iff.1 hf'
    rw [run_of_isLexeme_opening hl ho, run_of_isLexeme_opening hl ho']
    exact map_fst_run _ _ _ _
  | fault => rw [run_of_fault hf, run_of_fault hf']

end Assembly

theorem parse_eq_of_alike {s s' : Text} (h : (front o s).Alike (front o s')) :
    parse o s = parse o s' := by
  rw [parse_eq_map_run, parse_eq_map_run]
  exact Assembly.map_fst_run_of_alike (OpenList.coherent_of_no_tokens []) h [] []

theorem parseWithWarnings_eq_of_isToken {s s' r : Text} {t : Token} {ws : List Warning}
    (h : IsToken o s t ws r) (h' : IsToken o s' t ws r) :
    parseWithWarnings o s = parseWithWarnings o s' := by
  have hl : OpenList.empty.Coherent := OpenList.coherent_of_no_tokens []
  rw [parseWithWarnings_eq_run, parseWithWarnings_eq_run]
  exact (Assembly.run_token hl h).trans (Assembly.run_token hl h').symm

/-! ### Spellings of a name -/

/-- What stands before a name, so that the two are a token or the beginning of one. -/
def namePrefixes : List Text :=
  [[], ['#'], ['.'], [':'], [':', ':']]

/-- What stands before a name that is read in lower case. -/
def foldingPrefixes : List Text :=
  [[':'], [':', ':']]

/-- After `p`, the names `m` and `n` are spellings of one name. -/
def Respells (p m n : Text) : Prop :=
  unescape m = unescape n ∨
    p ∈ foldingPrefixes ∧ (unescape m).lowercase = (unescape n).lowercase

theorem Respells.unescape_eq {p m n : Text} (h : Respells p m n) (hp : p ∉ foldingPrefixes) :
    unescape m = unescape n :=
  h.resolve_right fun hfold => hp hfold.1

theorem Respells.lowercase_eq {p m n : Text} (h : Respells p m n) :
    (unescape m).lowercase = (unescape n).lowercase := by
  rcases h with h | ⟨-, h⟩
  · rw [h]
  · exact h

theorem front_alike_of_respells {p m n v : Text} (hp : p ∈ namePrefixes)
    (hm : IsName (m ++ v) m v) (hn : IsName (n ++ v) n v) (h : Respells p m n) :
    (front o (p ++ m ++ v)).Alike (front o (p ++ n ++ v)) := by
  have hlower := h.lowercase_eq
  simp only [namePrefixes, List.mem_cons, List.not_mem_nil, or_false] at hp
  rcases hp with rfl | rfl | rfl | rfl | rfl
  · have ht := IsToken.tag (o := o) hm
    rw [h.unescape_eq (by decide)] at ht
    exact ht.front_alike (.tag hn)
  · have ht := IsToken.idName (o := o) hm
    rw [h.unescape_eq (by decide)] at ht
    exact ht.front_alike (.idName hn)
  · have ht := IsToken.className (o := o) hm
    rw [h.unescape_eq (by decide)] at ht
    exact ht.front_alike (.className hn)
  · -- whether an argument follows, and which, is decided by the name in lower case
    have hm' : front o ([':'] ++ m ++ v) = _ := pseudoRead_of_isName hm
    have hn' : front o ([':'] ++ n ++ v) = _ := pseudoRead_of_isName hn
    rw [hm', hn', hlower]
    exact Pseudo.afterName_alike _ _ _ _
  · have ht := IsToken.pseudoElement (o := o) hm
    rw [hlower] at ht
    exact ht.front_alike (.pseudoElement hn)

/-- **The spelling of a name does not matter.** Two texts that differ only in how the name of their
first token is spelled are the same selector list, or fail with the same error at the same
place. -/
theorem parse_respell (o : Options) {p m n v : Text} (hp : p ∈ namePrefixes)
    (hm : IsName (m ++ v) m v) (hn : IsName (n ++ v) n v) (h : Respells p m n) :
    parse o (p ++ m ++ v) = parse o (p ++ n ++ v) :=
  parse_eq_of_alike (front_alike_of_respells hp hm hn h)

/-- The name of a pseudo-class that takes a selector list, in capital letters and with an escape
that a blank ends. -/
theorem parse_respell_not :
    [':'] ∈ namePrefixes ∧
      IsName ("N\\4f t".toList ++ "(.a:HAS(> b)), c".toList) "N\\4f t".toList
        "(.a:HAS(> b)), c".toList ∧
      IsName ("not".toList ++ "(.a:HAS(> b)), c".toList) "not".toList
        "(.a:HAS(> b)), c".toList ∧
      Respells [':'] "N\\4f t".toList "not".toList ∧
      parse {} ([':'] ++ "N\\4f t".toList ++ "(.a:HAS(> b)), c".toList) =
        parse {} ([':'] ++ "not".toList ++ "(.a:HAS(> b)), c".toList) := by
  have hp : [':'] ∈ namePrefixes := by decide
  have hm : IsName ("N\\4f t".toList ++ "(.a:HAS(> b)), c".toList) "N\\4f t".toList
      "(.a:HAS(> b)), c".toList := ⟨by decide +kernel, by decide⟩
  have hn : IsName ("not".toList ++ "(.a:HAS(> b)), c".toList) "not".toList
      "(.a:HAS(> b)), c".toList := ⟨by decide +kernel, by decide⟩
  have h : Respells [':'] "N\\4f t".toList "not".toList :=
    .inr ⟨by decide, by decide +kernel⟩
  exact ⟨hp, hm, hn, h, parse_respell {} hp hm hn h⟩

/-! ### Shorthands -/

namespace Bracket

/-- A name as the value of an attribute, before the closing bracket. -/
theorem value?_of_isName {n v : Text} (hn : IsName (n ++ v) n v) :
    value? (n ++ ']' :: v) = some (n, ']' :: v) := by
  have hsplit : Name.split (n ++ ']' :: v) = (n, ']' :: v) :=
    Name.split_append_of_replaces hn.split_eq (.mark (by decide) v v)
  obtain ⟨c, u, hu, hc⟩ := IsName.startsName ⟨hsplit, hn.ne_nil⟩
  have hitem := startsItem_of_startsName hc
  have hhash : c ≠ '#' := fun e => not_mem_of_startsName hc (by simp [e])
  rw [hu] at hsplit ⊢
  rw [value?_plain (by simpa using isBlank_of_startsItem hitem)
    (by simpa using isQuote_of_startsItem hitem) (by simpa using hhash), hsplit]

/-- Every operator is read before a value. -/
theorem comparison?_value {action : AttributeAction} (h : action ≠ .present) {t u q : Text}
    (hvalue : value? t = some (u, q)) :
    comparison? (skipBlanks (action.operator ++ t)) = some (action, u, q) := by
  cases action with
  | present => exact absurd rfl h
  | equals => exact comparison?_equals hvalue
  | _ => exact comparison?_operator rfl hvalue

end Bracket

/-- An attribute in brackets with a value, however that is written. -/
theorem isToken_comparison (name : Text) (hne : name ≠ []) (hfixed : IsFixed name)
    (action : AttributeAction) (h : action ≠ .present) {t u v : Text}
    (hvalue : Bracket.value? t = some (u, ']' :: v)) :
    IsToken o ('[' :: (spell name ++ (action.operator ++ t)))
      (.attr name action (unescape u) false) (Warning.ofText u) v := by
  have hoperator : (Name.split (action.operator ++ t)).1 = [] := by
    cases action with
    | present => exact absurd rfl h
    | _ => exact split_cons_of_not_startsName (by decide) _
  have hname := isName_spell hne hoperator
  have he : Bracket.ending? (']' :: v) = some (false, v) :=
    Bracket.ending?_eq_some_iff.2 (skipBlanks_of_not_isBlank (by decide) v)
  refine .bracket (Bracket.read?_eq_some_iff.2
    ⟨spell name, _, action, u, _, false, ?_, Bracket.comparison?_value h hvalue, he, ?_, ?_⟩)
  · rwa [hname.skipBlanks_eq]
  · rw [unescape_spell, attributeName_of_isFixed fun _ => hfixed]
  · rw [ofText_spell, List.nil_append]

/-- An attribute in brackets with a value that is a name. -/
theorem isToken_unquoted (name : Text) (hne : name ≠ []) (hfixed : IsFixed name)
    (action : AttributeAction) (h : action ≠ .present) {n v : Text} (hn : IsName (n ++ v) n v) :
    IsToken o ('[' :: (spell name ++ (action.operator ++ (n ++ ']' :: v))))
      (.attr name action (unescape n) false) (Warning.ofText n) v :=
  isToken_comparison name hne hfixed action h (Bracket.value?_of_isName hn)

/-- **Shorthands are what they are short for.** A dot or a hash before a name is read as the
attribute in brackets that it stands for, with the same warnings, whatever follows. -/
theorem parseWithWarnings_shorthand (o : Options) {n v : Text} (hn : IsName (n ++ v) n v) :
    parseWithWarnings o ('.' :: n ++ v) =
        parseWithWarnings o ("[class~=".toList ++ n ++ ']' :: v) ∧
      parseWithWarnings o ('#' :: n ++ v) =
        parseWithWarnings o ("[id=".toList ++ n ++ ']' :: v) := by
  have hclass := isToken_unquoted (o := o) "class".toList (by decide) (by decide)
    .element (by decide) hn
  have hid := isToken_unquoted (o := o) "id".toList (by decide) (by decide)
    .equals (by decide) hn
  -- what stands in front of the value, in one piece
  have hclassText : '[' :: (spell "class".toList ++ (AttributeAction.element.operator ++
      (n ++ ']' :: v))) = "[class~=".toList ++ n ++ ']' :: v := by
    rw [List.append_assoc]
    rfl
  have hidText : '[' :: (spell "id".toList ++ (AttributeAction.equals.operator ++
      (n ++ ']' :: v))) = "[id=".toList ++ n ++ ']' :: v := by
    rw [List.append_assoc]
    rfl
  rw [hclassText] at hclass
  rw [hidText] at hid
  exact ⟨parseWithWarnings_eq_of_isToken (.className hn) hclass,
    parseWithWarnings_eq_of_isToken (.idName hn) hid⟩

/-- A name that ends with an escape, before a text that is wrong. -/
theorem parseWithWarnings_shorthand_escape :
    IsName ("a\\d800 ".toList ++ " >> b".toList) "a\\d800 ".toList " >> b".toList ∧
      parseWithWarnings {} ('.' :: "a\\d800 ".toList ++ " >> b".toList) =
        parseWithWarnings {} ("[class~=".toList ++ "a\\d800 ".toList ++ ']' :: " >> b".toList) ∧
      parseWithWarnings {} ('#' :: "a\\d800 ".toList ++ " >> b".toList) =
        parseWithWarnings {} ("[id=".toList ++ "a\\d800 ".toList ++ ']' :: " >> b".toList) := by
  have hn : IsName ("a\\d800 ".toList ++ " >> b".toList) "a\\d800 ".toList " >> b".toList :=
    ⟨by decide +kernel, by decide⟩
  exact ⟨hn, parseWithWarnings_shorthand {} hn⟩

end CssSelector
