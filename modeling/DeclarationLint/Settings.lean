import DeclarationLint.Declaration
import DeclarationLint.Directive.Scanner
import DeclarationLint.KeyedList

/-!
# Settings of one file

What the comments of a file say about its lines: which rules are silent there, and which
settings rules find there.
-/
namespace DeclarationLint

/-- Which rules are silent on a line. -/
inductive Suppression where
  | everyRule
  | rules (identifiers : List String)
deriving DecidableEq, Repr

namespace Suppression

def covers : Suppression → String → Bool
  | everyRule, _ => true
  | rules identifiers, rule => identifiers.contains rule

/-- What two suppressions of one line cover together. -/
def join : Suppression → Suppression → Suppression
  | rules first, rules second => rules (first ++ second)
  | _, _ => everyRule

/-- No argument, and an empty one, silence every rule. -/
def ofArgument : Option String → Suppression
  | none => everyRule
  | some argument => if argument = "" then everyRule else rules (Text.pieces ',' argument)

end Suppression

/-- Settings given by comments, by line. -/
structure Settings where
  suppressions : KeyedList Int Suppression
  configurations : KeyedList Int (KeyedList String String)

namespace Settings

def empty : Settings := ⟨.empty, .empty⟩

instance : Inhabited Settings := ⟨empty⟩

/-- The parts of a text that have exactly one equals sign, as key and value. -/
def pairs (argument : String) : List (String × String) :=
  (Text.pieces ',' argument).filterMap fun token =>
    match Text.pieces '=' token with
    | [key, value] => some (key, value)
    | _ => none

/-- Adds what one directive on a line says; unknown keywords say nothing. -/
def addDirective (line : Int) (settings : Settings) (directive : Directive) : Settings :=
  if directive.keyword = Directive.suppress then
    let more := Suppression.ofArgument directive.argument
    { settings with
      suppressions := settings.suppressions.update line fun
        | none => more
        | some before => before.join more }
  else if directive.keyword = Directive.ruleConfigure then
    let more := pairs (directive.argument.getD "")
    { settings with
      configurations := settings.configurations.update line fun before =>
        (before.getD .empty).insertAll more }
  else settings

def addComment (settings : Settings) (comment : Comment) : Settings :=
  (Directive.scan comment.text).foldl (addDirective comment.line) settings

def ofComments (comments : List Comment) : Settings :=
  comments.foldl addComment empty

def ofFile (file : SourceFile) : Settings := ofComments file.comments

def isSuppressed (settings : Settings) (line : Int) (rule : String) : Bool :=
  match settings.suppressions.get? line with
  | none => false
  | some suppression => suppression.covers rule

def configurationAt (settings : Settings) (line : Int) : KeyedList String String :=
  (settings.configurations.get? line).getD .empty

end Settings
end DeclarationLint
