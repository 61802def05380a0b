/-
  Strings, with quotation marks and without.

  A string is written between quotation marks, as the value of an attribute or as the argument of
  a pseudo-class that takes a string, and where it is a name the marks can be left out. So its end
  is found in three ways: at the closing mark, at the end of the name, and at the parenthesis
  that closes the argument, in which case the marks are taken off afterwards
  (`Quotation.strip_quoted`). As long as these ways find the same text, it means the same string,
  with the same warnings (`parseWithWarnings_string`).

  For a name nothing has to be asked of the parentheses: none of its pieces is one, so the
  argument ends right after the name (`Parenthesis.split?_of_isName`).
-/
import CssSelector.Proofs.Alike
import CssSelector.Proofs.Escape.Boundary
import CssSelector.Proofs.Grammar.Parse

namespace CssSelector

open Grammar

variable {o : Options} {mark : Char} {body : Text}

/-! ### Quotation marks -/

/-- The marks around a quotation are taken off, and no more than these. -/
theorem Quotation.strip_quoted (hm : isQuote mark) (body : Text) :
    strip (mark :: body ++ [mark]) = body := by
  have hlast : (mark :: (body ++ [mark])).getLast? = some mark := by
    rw [← List.cons_append, List.getLast?_concat]
  rw [List.cons_append, strip, if_pos ⟨hm, hlast⟩, List.dropLast_concat]

/-- What starts with no quotation mark stays as it is. -/
theorem Quotation.strip_of_head {s : Text} (h : s.head?.any isQuote = false) : strip s = s := by
  cases s with
  | nil => rfl
  | cons c s =>
    have hc : isQuote c = false := by simpa using h
    simp [strip, hc]

/-- A quotation as the value of an attribute, whatever follows it. -/
theorem Bracket.value?_quotation (hm : isQuote mark)
    (hbody : Quotation.split? mark (body ++ [mark]) = some (body, [])) (v : Text) :
    value? (mark :: body ++ mark :: v) = some (body, v) := by
  rw [List.cons_append, value?_quote hm]
  exact Quotation.split?_append hbody v

/-! ### Parentheses -/

/-- A name up to a closing parenthesis is all that stands between the parentheses. -/
theorem Parenthesis.splitAfter?_of_split {before s n v : Text} (hb : isEscaped before = false)
    (h : Name.split s = (n, ')' :: v)) : splitAfter? before 0 s = some (n, v) := by
  induction s using Escape.pieceInduction generalizing before n with
  | nil =>
    rw [Name.split_nil] at h
    cases h
  | piece p r hp ih =>
    have hnext := Escape.next?_eq_some_iff.2 ⟨rfl, hp⟩
    by_cases hadmits : Name.admits p
    · rw [Name.split_of_admits hnext hadmits] at h
      obtain ⟨rfl, hv⟩ := Prod.mk.inj h
      -- a piece of a name is no parenthesis, and no backslash at the end of the text
      have hne {q : Escape.Piece} (hq : Name.admits q = false) : p ≠ q := by
        rintro rfl
        simp [hq] at hadmits
      obtain ⟨hescaped, hsplit⟩ := splitAfter?_source hb hp (hne rfl) (hne rfl) (hne rfl) 0
      rw [hsplit, ih hescaped (Prod.ext rfl hv)]
      rfl
    · rw [Name.split_of_not_admits hnext hadmits] at h
      obtain ⟨rfl, hv⟩ := Prod.mk.inj h
      rw [hv]
      exact splitAfter?_closing hb 0 v

theorem Parenthesis.split?_of_isName {n : Text} (hn : IsName n n []) (v : Text) :
    split? (n ++ ')' :: v) = some (n, v) := by
  have hname := hn.stable.before (.mark (c := ')') (by decide) v [])
  exact splitAfter?_of_split rfl hname.split_eq

/-! ### Strings as arguments -/

theorem Grammar.IsName.strip_eq {s n r : Text} (h : IsName s n r) : Quotation.strip s = s := by
  obtain ⟨c, u, rfl, hc⟩ := h.startsName
  apply Quotation.strip_of_head
  simpa using isQuote_of_startsItem (startsItem_of_startsName hc)

/-- The argument of a pseudo-class that takes a string, up to the parenthesis that closes it. -/
theorem isToken_string {name argument v : Text} (h : name ∈ Token.stringPseudos)
    (ha : Parenthesis.split? (argument ++ ')' :: v) = some (argument, v)) :
    IsToken o (':' :: (name ++ '(' :: (argument ++ ')' :: v)))
      (.pseudoText name (unescape (Quotation.strip argument)))
      (Warning.ofText (Quotation.strip argument)) v := by
  have hword := isWord_of_mem (List.mem_append_right Token.selectorPseudos h)
  have hstring : Token.takesString name := List.contains_iff_mem.2 h
  have hlist : Token.takesSelectors name = false := by
    have hall : Token.stringPseudos.all fun q => !Token.takesSelectors q := by decide
    simpa using List.all_eq_true.1 hall name h
  have hmeaning := hword.lowercase_unescape
  have ht := IsToken.pseudoText (o := o) (hword.isName_paren _) (by rwa [hmeaning]) ha
  rw [hmeaning, hword.ofText_eq, Pseudo.withText, if_pos hstring] at ht
  exact ht

/-! ### All ways of writing a string -/

/-- However the value is written, the attribute is all that is read. -/
theorem parseWithWarnings_of_value {w : Text} (hvalue : Bracket.value? (w ++ [']']) =
    some (body, [']'])) : parseWithWarnings o ("[x=".toList ++ w ++ [']']) =
      .ok ([[.attr "x".toList .equals (unescape body) false]], Warning.ofText body) := by
  have ht := isToken_comparison (o := o) "x".toList (by decide) (by decide) .equals (by decide)
    hvalue
  rw [List.append_assoc]
  exact parseWithWarnings_of_isToken ht

/-- However the string is written, the pseudo-class is all that is read. -/
theorem parseWithWarnings_of_argument {name w : Text} (h : name ∈ Token.stringPseudos)
    (ha : Parenthesis.split? (w ++ [')']) = some (w, [])) :
    parseWithWarnings o (':' :: name ++ '(' :: w ++ [')']) =
      .ok ([[.pseudoText name (unescape (Quotation.strip w))]],
        Warning.ofText (Quotation.strip w)) := by
  have ht := isToken_string (o := o) h ha
  have htext : ':' :: name ++ '(' :: w ++ [')'] = ':' :: (name ++ '(' :: (w ++ [')'])) := by simp
  rw [htext]
  exact parseWithWarnings_of_isToken ht

/-- **All ways of writing a string mean the same string.** A quotation is what its body means,
as the value of an attribute, and as the argument of a pseudo-class that takes a string if its
parentheses match. If the body is a name, it means the same without the marks. The warnings do not
depend on how the string is written either. -/
theorem parseWithWarnings_string (o : Options) {mark : Char} {body : Text} (hm : isQuote mark)
    (hbody : Quotation.split? mark (body ++ [mark]) = some (body, [])) :
    parseWithWarnings o ("[x=".toList ++ (mark :: body ++ [mark]) ++ [']']) =
        .ok ([[.attr "x".toList .equals (unescape body) false]], Warning.ofText body) ∧
      (Parenthesis.split? (mark :: body ++ [mark] ++ [')']) = some (mark :: body ++ [mark], []) →
        ∀ name ∈ Token.stringPseudos,
          parseWithWarnings o (':' :: name ++ '(' :: (mark :: body ++ [mark]) ++ [')']) =
            .ok ([[.pseudoText name (unescape body)]], Warning.ofText body)) ∧
      (IsName body body [] →
        parseWithWarnings o ("[x=".toList ++ body ++ [']']) =
            .ok ([[.attr "x".toList .equals (unescape body) false]], Warning.ofText body) ∧
          ∀ name ∈ Token.stringPseudos,
            parseWithWarnings o (':' :: name ++ '(' :: body ++ [')']) =
              .ok ([[.pseudoText name (unescape body)]], Warning.ofText body)) := by
  refine ⟨?_, ?_, ?_⟩
  · apply parseWithWarnings_of_value
    rw [List.append_assoc]
    exact Bracket.value?_quotation hm hbody [']']
  · intro hmatch name hname
    have harg := parseWithWarnings_of_argument (o := o) hname hmatch
    rwa [Quotation.strip_quoted hm] at harg
  · intro hn
    constructor
    · apply parseWithWarnings_of_value
      exact Bracket.value?_of_isName (v := []) (by rwa [List.append_nil])
    · intro name hname
      have harg := parseWithWarnings_of_argument (o := o) hname (Parenthesis.split?_of_isName hn [])
      rwa [hn.strip_eq] at harg

/-- A string with the mark and both parentheses in it, one of them by its code point, and with an
escape that names no character and is ended by a blank. -/
theorem parseWithWarnings_string_escape :
    isQuote '\x27' ∧
      Quotation.split? '\x27' ("it\\'s\\28 \\)\\d800 ".toList ++ ['\x27']) =
        some ("it\\'s\\28 \\)\\d800 ".toList, []) ∧
      Parenthesis.split? ('\x27' :: "it\\'s\\28 \\)\\d800 ".toList ++ ['\x27'] ++ [')']) =
        some ('\x27' :: "it\\'s\\28 \\)\\d800 ".toList ++ ['\x27'], []) ∧
      IsName "it\\'s\\28 \\)\\d800 ".toList "it\\'s\\28 \\)\\d800 ".toList [] ∧
      parseWithWarnings {} "[x='it\\'s\\28 \\)\\d800 ']".toList =
        .ok ([[.attr "x".toList .equals "it's()d800".toList false]], [⟨"d800".toList⟩]) ∧
      parseWithWarnings {} ":icontains('it\\'s\\28 \\)\\d800 ')".toList =
        .ok ([[.pseudoText "icontains".toList "it's()d800".toList]], [⟨"d800".toList⟩]) ∧
      parseWithWarnings {} "[x=it\\'s\\28 \\)\\d800 ]".toList =
        .ok ([[.attr "x".toList .equals "it's()d800".toList false]], [⟨"d800".toList⟩]) ∧
      parseWithWarnings {} ":icontains(it\\'s\\28 \\)\\d800 )".toList =
        .ok ([[.pseudoText "icontains".toList "it's()d800".toList]], [⟨"d800".toList⟩]) := by
  have hbody : Quotation.split? '\x27' ("it\\'s\\28 \\)\\d800 ".toList ++ ['\x27']) =
      some ("it\\'s\\28 \\)\\d800 ".toList, []) := by decide +kernel
  have hmatch : Parenthesis.split?
      ('\x27' :: "it\\'s\\28 \\)\\d800 ".toList ++ ['\x27'] ++ [')']) =
        some ('\x27' :: "it\\'s\\28 \\)\\d800 ".toList ++ ['\x27'], []) := by decide +kernel
  have hname : IsName "it\\'s\\28 \\)\\d800 ".toList "it\\'s\\28 \\)\\d800 ".toList [] :=
    ⟨by decide +kernel, by decide⟩
  have hmeaning : unescape "it\\'s\\28 \\)\\d800 ".toList = "it's()d800".toList := by
    decide +kernel
  have hwarnings : Warning.ofText "it\\'s\\28 \\)\\d800 ".toList = [⟨"d800".toList⟩] := by
    decide +kernel
  have h := parseWithWarnings_string {} (by decide) hbody
  rw [hmeaning, hwarnings] at h
  obtain ⟨hquoted, hargument, hplain⟩ := h
  have hmem : "icontains".toList ∈ Token.stringPseudos := by decide
  exact ⟨by decide, hbody, hmatch, hname, hquoted, hargument hmatch _ hmem, (hplain hname).1,
    (hplain hname).2 _ hmem⟩

end CssSelector
