/-
  Reading a text from any state.

  `Assembly.run` is what becomes of a text when some lists are open already and
  some warnings have been given. It goes on from lexeme to lexeme (`run_lexeme`)
  until there is none (`run_end`) or one that is wrong (`run_of_fault`), so facts
  about it are proved by induction on the length of the text. Parsing is a
  run from the start (`parseWithWarnings_eq_run`).
-/
import CssSelector.Parse
import CssSelector.Proofs.Bracket
import CssSelector.Proofs.Front
import CssSelector.Proofs.OpenList

namespace CssSelector

namespace Assembly

open Grammar

/-- What becomes of a text when `a` and `ws` come from the text before it. -/
def run (o : Options) (a : Assembly) (ws : List Warning) (s : Text) :
    Except Error (SelectorList × List Warning) :=
  ((lex o s).words.foldlM read a >>= fun b => b.conclude (lex o s).ending).map
    (·, ws ++ (lex o s).warnings)

variable {o : Options} {a : Assembly} {ws : List Warning} {s : Text}

theorem run_of_nothing (h : front o s = .nothing) :
    run o a ws s = (a.conclude (.stop s)).map (·, ws) := by
  simp [run, lex_of_nothing h, Lexing.warnings]

theorem run_of_fault {e : Error} (h : front o s = .fault e) : run o a ws s = .error e := by
  simp [run, lex_of_fault h, Lexing.warnings]
  rfl

theorem run_lexeme {lexeme : Lexeme} {vs : List Warning} {r : Text}
    (h : IsLexeme o s lexeme vs r) :
    run o a ws s = a.read ⟨lexeme, vs, s⟩ >>= fun b => run o b (ws ++ vs) r := by
  simp only [run, lex_of_lexeme (front_of_isLexeme h), Lexing.warnings, List.foldlM_cons,
    List.flatMap_cons, List.append_assoc]
  cases a.read ⟨lexeme, vs, s⟩ <;> rfl

/-! ### The steps of a run -/

variable {l : OpenList} {E : List (Text × OpenList)} {r : Text}

theorem run_space {c : Char} (hc : isBlank c) :
    run o ⟨l, E⟩ ws (c :: r) = run o ⟨l.space, E⟩ ws (skipBlanks r) := by
  rw [run_lexeme (.blanks hc), List.append_nil]
  rfl

theorem run_combinator {c : Char} {kind : Combinator}
    (hc : Combinator.ofSymbol? c = some kind) : run o ⟨l, E⟩ ws (c :: r) =
      if l.endsInCombinator then .error ⟨.successiveCombinators, c :: r⟩
      else run o ⟨l.add (.combinator kind), E⟩ ws r := by
  rw [run_lexeme (.combinator hc), List.append_nil]
  simp only [read, OpenList.combine_eq]
  split <;> rfl

theorem run_comma : run o ⟨l, E⟩ ws (',' :: r) =
    if l.tokens = [] then .error ⟨.emptyGroup, ',' :: r⟩
    else run o ⟨⟨l.tokens.reverse :: l.groups, [], false⟩, E⟩ ws r := by
  rw [run_lexeme .comma, List.append_nil]
  simp only [read, OpenList.endGroup]
  split <;> rfl

theorem run_token {t : Token} {vs : List Warning} (hl : l.Coherent) (ht : IsToken o s t vs r) :
    run o ⟨l, E⟩ ws s = run o ⟨l.add t, E⟩ (ws ++ vs) r := by
  rw [run_lexeme (.token ht), ← OpenList.push_joined ht.not_isCombinator]
  simp only [read, OpenList.join_of_coherent hl]
  rfl

theorem run_opening {n : Text} (hl : l.Coherent) (hn : IsName s n ('(' :: r))
    (ht : Token.takesSelectors (unescape n).lowercase) (hq : r.head?.any isQuote = false) :
    run o ⟨l, E⟩ ws (':' :: s) =
      run o ⟨.empty, ((unescape n).lowercase, l.joined) :: E⟩ (ws ++ Warning.ofText n) r := by
  rw [run_lexeme (.opening hn ht hq)]
  simp only [read, OpenList.join_of_coherent hl]
  rfl

/-- A parenthesis ends the argument that is being read, if there is one. -/
theorem run_closing : run o ⟨l, E⟩ ws (')' :: r) =
    if l.tokens = [] then .error ⟨.emptyGroup, ')' :: r⟩
    else
      match E with
      | [] => .error ⟨.unmatchedText, ')' :: r⟩
      | (name, outer) :: E => run o ⟨outer.push (.pseudoList name l.toList), E⟩ ws r := by
  rw [run_lexeme .closing, List.append_nil]
  simp only [read, OpenList.close_eq]
  split
  · rfl
  · cases E <;> rfl

/-- A run ends well at the end of the text, outside all arguments and not in an empty group. -/
theorem run_end (h : front o s = .nothing) : run o ⟨l, E⟩ ws s =
    if l.tokens = [] then .error ⟨.emptyGroup, s⟩
    else
      match E with
      | [] => if s = [] then .ok (l.toList, ws) else .error ⟨.unmatchedText, s⟩
      | (name, _) :: _ => .error ⟨.unclosedArgument name, s⟩ := by
  rw [run_of_nothing h]
  simp only [conclude, OpenList.close_eq]
  split
  · rfl
  · cases E with
    | nil => by_cases hs : s = [] <;> simp [hs, bind, Except.bind, Except.map]
    | cons p E => rfl

end Assembly

theorem parseWithWarnings_eq_run (o : Options) (s : Text) :
    parseWithWarnings o s = Assembly.run o .start [] s :=
  rfl

theorem parse_eq_map_run (o : Options) (s : Text) :
    parse o s = (Assembly.run o .start [] s).map Prod.fst := by
  simp only [parse, Assembly.ofLexing, Assembly.run]
  cases (lex o s).words.foldlM Assembly.read Assembly.start with
  | error e => rfl
  | ok b => cases h : b.conclude (lex o s).ending <;> simp [bind, Except.bind, Except.map, h]

theorem parse_eq_ok_iff_run {o : Options} {s : Text} {gs : SelectorList} :
    parse o s = .ok gs ↔ ∃ ws, Assembly.run o .start [] s = .ok (gs, ws) := by
  rw [parse_eq_map_run]
  cases Assembly.run o .start [] s with
  | error e => simp [Except.map]
  | ok out => simp [Except.map, Prod.ext_iff]

theorem parse_eq_error_iff_run {o : Options} {s : Text} {e : Error} :
    parse o s = .error e ↔ Assembly.run o .start [] s = .error e := by
  rw [parse_eq_map_run]
  cases Assembly.run o .start [] s <;> simp [Except.map]

end CssSelector
