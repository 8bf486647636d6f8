import DeclarationLint.Declaration
import DeclarationLint.Issue
import DeclarationLint.Schema

/-!
# The records of the program

How each type is read from a document: which fields it has, in which order, and what stands
in for a field that is left out. Statements and declarations hold their own kind, so they are
read at a depth, and so are the spans and locations in them.
-/
namespace DeclarationLint

open Schema

def Location.read : Value → Checked Location :=
  record fun fields =>
    Location.mk <$> required "identifier" fields text <*> required "line" fields integer <*>
      required "column" fields integer

/-- The locations of a span are one level below it. -/
def Span.readAt (depth : Nat) : Value → Checked Span :=
  let location := fun value => atDepth (depth + 1) (Location.read value)
  record fun fields =>
    Span.mk <$> required "start" fields location <*> required "end" fields location

def Span.read : Value → Checked Span := Span.readAt 0

def Correction.read : Value → Checked Correction :=
  record fun fields =>
    Correction.mk <$> required "suggestion" fields text <*>
      optional "replacement_range" fields none (nullable Span.read)

def Issue.read : Value → Checked Issue :=
  record fun fields =>
    Issue.mk <$> required "rule_identifier" fields text <*>
      optional "description" fields "" text <*>
      required "category" fields word <*> required "severity" fields word <*>
      required "location" fields Span.read <*>
      optional "correction" fields none (nullable Correction.read)

def Comment.read : Value → Checked Comment :=
  record fun fields =>
    Comment.mk <$> required "line" fields integer <*> required "text" fields Schema.text

/-- The span of a statement stands on its level, its children one level below. -/
def Statement.readAt (depth : Nat) (value : Value) : Checked Statement :=
  atDepth depth <|
    match value with
    | .record fields =>
      Statement.mk <$> required "kind" fields word <*>
        required "source_range" fields (Span.readAt depth) <*>
        field "children" fields (pure []) fun children _ =>
          list children fun child _ => Statement.readAt (depth + 1) child
    | _ => .problem .notARecord
termination_by value
decreasing_by
  simp only [Value.record.sizeOf_spec]
  omega

def Statement.read : Value → Checked Statement := Statement.readAt 1

/-- The span and the members of a declaration stand one level below it, its statements two. -/
def Declaration.readAt (depth : Nat) (value : Value) : Checked Declaration :=
  let span := fun value => atDepth (depth + 1) (Span.readAt (depth + 1) value)
  atDepth depth <|
    match value with
    | .record fields =>
      Declaration.mk <$> required "kind" fields word <*> optional "name" fields "" text <*>
        required "source_range" fields span <*>
        optional "body" fields none (nullable (listOf (Statement.readAt (depth + 2)))) <*>
        field "members" fields (pure []) fun members _ =>
          list members fun member _ => Declaration.readAt (depth + 1) member
    | _ => .problem .notARecord
termination_by value
decreasing_by
  simp only [Value.record.sizeOf_spec]
  omega

def Declaration.read : Value → Checked Declaration := Declaration.readAt 1

def SourceFile.read : Value → Checked SourceFile :=
  record fun fields =>
    SourceFile.mk <$> required "identifier" fields text <*>
      optional "declarations" fields [] (listOf (Declaration.readAt 2)) <*>
      optional "comments" fields [] (listOf Comment.read)

end DeclarationLint
