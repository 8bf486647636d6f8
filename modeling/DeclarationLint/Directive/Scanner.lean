import DeclarationLint.Directive
import DeclarationLint.Text.Pieces

/-!
# Finding directives in a comment

Everything up to the first anchor is free text. After it a machine with four states reads the
comment character by character. Spaces never count. A directive is complete when its argument
is closed, when the next colon comes, or at the end of the text; an argument that is never
closed is lost, and nothing else is.
-/
namespace DeclarationLint.Directive

/-- The mark after which directives are looked for. -/
def anchor : List Char := "declint".toList

/-- What the scanner is reading. Characters read so far are kept newest first. -/
inductive ScanState where
  /-- Before the first colon after the anchor. -/
  | head
  | keyword (read : List Char)
  | argument (keyword : String) (read : List Char)
  /-- Free text after a closed argument. -/
  | tail (read : List Char)
deriving DecidableEq, Repr

def textOf (read : List Char) : String := String.ofList read.reverse

namespace ScanState

/-- A keyword without an argument, unless there is no keyword either. -/
def bare? (read : List Char) : Option Directive :=
  if read.isEmpty then none else some ⟨textOf read, none⟩

/-- After a closed argument a colon opens a keyword if nothing but an anchor, or nothing at
all, stands before it; any other colon is free text. -/
def opensKeyword (read : List Char) : Bool :=
  read.isEmpty || anchor.reverse.isPrefixOf read

/-- Reads one character, which may complete a directive. -/
def step : ScanState → Char → ScanState × Option Directive
  | head, c => (if c = ':' then keyword [] else head, none)
  | keyword read, c =>
    if c = ':' then (keyword [], bare? read)
    else if c = '(' then (argument (textOf read) [], none)
    else if c = ')' ∨ c = ' ' then (keyword read, none)
    else (keyword (c :: read), none)
  | argument word read, c =>
    if c = ')' then (tail [], some ⟨word, some (textOf read)⟩)
    else if c = ' ' then (argument word read, none)
    else (argument word (c :: read), none)
  | tail read, c =>
    if c = ':' ∧ opensKeyword read then (keyword [], none)
    else if c = ')' ∨ c = ' ' then (tail read, none)
    else (tail (c :: read), none)

/-- What the end of the text completes. -/
def finish : ScanState → Option Directive
  | keyword read => bare? read
  | _ => none

def run : ScanState → List Char → List Directive
  | state, [] => state.finish.toList
  | state, c :: rest =>
    match state.step c with
    | (next, none) => run next rest
    | (next, some directive) => directive :: run next rest

end ScanState

/-- The directives of one comment, in order. A comment without the anchor has none. -/
def scan (text : String) : List Directive :=
  match Text.after? anchor text.toList with
  | none => []
  | some following => ScanState.head.run following

end DeclarationLint.Directive
