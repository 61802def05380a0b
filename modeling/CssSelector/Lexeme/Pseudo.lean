/-
  `Pseudo` — pseudo-classes and pseudo-elements.

  The readers start after the (first) colon. The name decides how an argument in
  parentheses is read: as a selector list (only its opening is read here), as a
  string, or as it stands.
-/
import CssSelector.Lexeme
import CssSelector.Name
import CssSelector.Parenthesis
import CssSelector.Quotation
import CssSelector.Text.Lowercase

namespace CssSelector.Pseudo

/-- The pseudo-class `name` with a text as its argument, from what stands in the parentheses. A
string loses its quotation marks and its escapes; every other argument stays as it is written. -/
def withText (name argument : Text) : Token × List Warning :=
  if Token.takesString name then
    let string := Quotation.strip argument
    (.pseudoText name (unescape string), Warning.ofText string)
  else (.pseudoText name argument, [])

/-- What follows the name of a pseudo-class, the name in lower case. -/
def afterName (name : Text) (warnings : List Warning) (s : Text) : Front :=
  match s with
  | [] => .lexeme ⟨.token (.pseudo name), warnings, s⟩
  | c :: r =>
    if c ≠ '(' then .lexeme ⟨.token (.pseudo name), warnings, s⟩
    else if Token.takesSelectors name then
      if (r.head?.any isQuote) then .fault ⟨.quotedArgument name, r⟩
      else .lexeme ⟨.opening name, warnings, r⟩
    else
      match Parenthesis.split? r with
      | none => .fault ⟨.unmatchedParenthesis name, s⟩
      | some (argument, rest) =>
        let (token, more) := withText name argument
        .lexeme ⟨.token token, warnings ++ more, rest⟩

/-- What one colon starts. -/
def readClass (s : Text) : Front :=
  let (name, r) := Name.split s
  if name = [] then .fault ⟨.missingName, s⟩
  else afterName (unescape name).lowercase (Warning.ofText name) r

/-- What two colons start. -/
def readElement (s : Text) : Front :=
  let (name, r) := Name.split s
  if name = [] then .fault ⟨.missingName, s⟩
  else .lexeme ⟨.token (.pseudoElement (unescape name).lowercase), Warning.ofText name, r⟩

/-- What a colon before `s` starts. -/
def read (s : Text) : Front :=
  match s with
  | [] => readClass s
  | c :: r => if c = ':' then readElement r else readClass s

/-! ### What follows is an end of the text -/

theorem afterName_suffix {name s : Text} {ws : List Warning} {reading : Reading Lexeme}
    (h : afterName name ws s = .lexeme reading) : reading.rest <:+ s := by
  unfold afterName at h
  split at h
  · simp [← Front.lexeme.inj h]
  · split at h
    · simp [← Front.lexeme.inj h]
    · split at h
      · split at h
        · simp at h
        · simp [← Front.lexeme.inj h]
      · split at h
        · simp at h
        next hp =>
          rw [← Front.lexeme.inj h]
          exact (Parenthesis.split?_suffix hp).trans (List.suffix_cons _ _)

theorem readClass_suffix {s : Text} {reading : Reading Lexeme}
    (h : readClass s = .lexeme reading) : reading.rest <:+ s := by
  simp only [readClass] at h
  split at h
  · simp at h
  · exact (afterName_suffix h).trans (Name.split_suffix s)

theorem readElement_suffix {s : Text} {reading : Reading Lexeme}
    (h : readElement s = .lexeme reading) : reading.rest <:+ s := by
  simp only [readElement] at h
  split at h
  · simp at h
  · rw [← Front.lexeme.inj h]
    exact Name.split_suffix s

theorem read_suffix {s : Text} {reading : Reading Lexeme}
    (h : read s = .lexeme reading) : reading.rest <:+ s := by
  unfold read at h
  split at h
  · exact readClass_suffix h
  · split at h
    · exact (readElement_suffix h).trans (List.suffix_cons _ _)
    · exact readClass_suffix h

end CssSelector.Pseudo
