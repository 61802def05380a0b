/-
  `Lexing` — a text as a row of lexemes.

  `front` reads the lexeme that a text starts with, and `lex` reads lexemes as
  long as there are any. Every lexeme is kept with the text from its own start
  on, which is what an error at that lexeme has to show, and with the warnings
  that it calls for.
-/
import CssSelector.Lexeme.Bracket
import CssSelector.Lexeme.Pseudo

namespace CssSelector

/-! ### The front of a text -/

/-- The attribute `attrName` with the name at the front of `s` as its value: `#name`, `.name`. -/
def readShorthand (attrName : Text) (action : AttributeAction) (s : Text) : Front :=
  let (name, rest) := Name.split s
  if name = [] then .fault ⟨.missingName, s⟩
  else .lexeme ⟨.token (.attr attrName action (unescape name) false), Warning.ofText name, rest⟩

/-- The attribute in brackets whose opening bracket stands before `s`. -/
def readBracket (o : Options) (s : Text) : Front :=
  match Bracket.read? o s with
  | none => .fault ⟨.malformedAttribute, s⟩
  | some reading => .lexeme ⟨.token reading.value, reading.warnings, reading.rest⟩

/-- The name of an element at the front of a text. -/
def readTag (o : Options) (s : Text) : Front :=
  let (name, rest) := Name.split s
  if name = [] then .nothing
  else .lexeme ⟨.token (.tag (o.tagName (unescape name))), Warning.ofText name, rest⟩

/-- What a text starts with. -/
def front (o : Options) (s : Text) : Front :=
  match s with
  | [] => .nothing
  | c :: r =>
    if isBlank c then .plain .blanks (skipBlanks r)
    else
      match Combinator.ofSymbol? c with
      | some kind => .plain (.combinator kind) r
      | none =>
        if c = ',' then .plain .comma r
        else if c = ')' then .plain .closing r
        else if c = '*' then .plain (.token .universal) r
        else if c = '#' then readShorthand "id".toList .equals r
        else if c = '.' then readShorthand "class".toList .element r
        else if c = '[' then readBracket o r
        else if c = ':' then Pseudo.read r
        else readTag o (c :: r)

theorem readShorthand_suffix {attrName s : Text} {action : AttributeAction}
    {reading : Reading Lexeme} (h : readShorthand attrName action s = .lexeme reading) :
    reading.rest <:+ s := by
  simp only [readShorthand] at h
  split at h
  · simp at h
  · rw [← Front.lexeme.inj h]
    exact Name.split_suffix s

theorem readBracket_suffix {o : Options} {s : Text} {reading : Reading Lexeme}
    (h : readBracket o s = .lexeme reading) : reading.rest <:+ s := by
  unfold readBracket at h
  split at h
  · simp at h
  next hb =>
    rw [← Front.lexeme.inj h]
    exact Bracket.read?_suffix hb

theorem length_readTag {o : Options} {s : Text} {reading : Reading Lexeme}
    (h : readTag o s = .lexeme reading) : reading.rest.length < s.length := by
  simp only [readTag] at h
  split at h
  · simp at h
  next hn =>
    rw [← Front.lexeme.inj h]
    exact Name.length_split hn

/-- A lexeme takes something from the text. -/
theorem length_front {o : Options} {s : Text} {reading : Reading Lexeme}
    (h : front o s = .lexeme reading) : reading.rest.length < s.length := by
  have tail {c : Char} {r : Text} (hr : reading.rest <:+ r) :
      reading.rest.length < (c :: r).length :=
    Nat.lt_succ_of_le hr.length_le
  unfold front at h
  split at h
  · simp at h
  next c r =>
    split at h
    · rw [← Front.lexeme.inj h]
      exact Nat.lt_succ_of_le (skipBlanks_suffix r).length_le
    · split at h
      · exact tail (by simp [← Front.lexeme.inj h])
      · split at h
        · exact tail (by simp [← Front.lexeme.inj h])
        · split at h
          · exact tail (by simp [← Front.lexeme.inj h])
          · split at h
            · exact tail (by simp [← Front.lexeme.inj h])
            · split at h
              · exact tail (readShorthand_suffix h)
              · split at h
                · exact tail (readShorthand_suffix h)
                · split at h
                  · exact tail (readBracket_suffix h)
                  · split at h
                    · exact tail (Pseudo.read_suffix h)
                    · exact length_readTag h

/-! ### The whole text -/

/-- A lexeme in its place. -/
structure Word where
  lexeme : Lexeme
  warnings : List Warning
  /-- The text from the lexeme on. -/
  source : Text
  deriving DecidableEq, Repr

/-- How a row of lexemes ends. -/
inductive Ending where
  /-- No lexeme starts the text that is left; at the end of the text it is empty. -/
  | stop (rest : Text)
  /-- Something is wrong in itself. -/
  | fault (error : Error)
  deriving DecidableEq, Repr

/-- A text as a row of lexemes. -/
structure Lexing where
  words : List Word
  ending : Ending
  deriving DecidableEq, Repr

/-- The lexemes of a text, up to the first place where there is none. -/
def lex (o : Options) (s : Text) : Lexing :=
  match _h : front o s with
  | .nothing => ⟨[], .stop s⟩
  | .fault error => ⟨[], .fault error⟩
  | .lexeme reading =>
    let tail := lex o reading.rest
    ⟨⟨reading.value, reading.warnings, s⟩ :: tail.words, tail.ending⟩
termination_by s.length
decreasing_by exact length_front ‹_›

theorem lex_of_nothing {o : Options} {s : Text} (h : front o s = .nothing) :
    lex o s = ⟨[], .stop s⟩ := by
  rw [lex]
  split <;> simp_all

theorem lex_of_fault {o : Options} {s : Text} {error : Error} (h : front o s = .fault error) :
    lex o s = ⟨[], .fault error⟩ := by
  rw [lex]
  split <;> simp_all

theorem lex_of_lexeme {o : Options} {s : Text} {reading : Reading Lexeme}
    (h : front o s = .lexeme reading) :
    lex o s = ⟨⟨reading.value, reading.warnings, s⟩ :: (lex o reading.rest).words,
      (lex o reading.rest).ending⟩ := by
  rw [lex]
  split <;> simp_all

end CssSelector
