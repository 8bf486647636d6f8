import DeclarationLint.Schema.Records

/-!
# Writing records

How each type is written as a document: every field is there, in the order in which the
fields are read.
-/
namespace DeclarationLint

def Value.ofOption {α : Type} (write : α → Value) : Option α → Value
  | none => null
  | some value => write value

def Location.toValue (location : Location) : Value :=
  .record
    [("identifier", .text location.file), ("line", .integer location.line),
     ("column", .integer location.column)]

def Span.toValue (span : Span) : Value :=
  .record [("start", span.start.toValue), ("end", span.stop.toValue)]

def Correction.toValue (correction : Correction) : Value :=
  .record
    [("suggestion", .text correction.suggestion),
     ("replacement_range", .ofOption Span.toValue correction.replacement)]

def Issue.toValue (issue : Issue) : Value :=
  .record
    [("rule_identifier", .text issue.rule), ("description", .text issue.description),
     ("category", .text issue.category.word), ("severity", .text issue.severity.word),
     ("location", issue.span.toValue),
     ("correction", .ofOption Correction.toValue issue.correction)]

def Comment.toValue (comment : Comment) : Value :=
  .record [("line", .integer comment.line), ("text", .text comment.text)]

mutual

def Statement.toValue : Statement → Value
  | ⟨kind, span, children⟩ =>
    .record
      [("kind", .text kind.word), ("source_range", span.toValue),
       ("children", .list (Statement.toValues children))]

def Statement.toValues : List Statement → List Value
  | [] => []
  | statement :: rest => statement.toValue :: Statement.toValues rest

end

mutual

def Declaration.toValue : Declaration → Value
  | ⟨kind, name, span, body, members⟩ =>
    .record
      [("kind", .text kind.word), ("name", .text name), ("source_range", span.toValue),
       ("body", .ofOption (fun statements => .list (Statement.toValues statements)) body),
       ("members", .list (Declaration.toValues members))]

def Declaration.toValues : List Declaration → List Value
  | [] => []
  | declaration :: rest => declaration.toValue :: Declaration.toValues rest

end

def SourceFile.toValue (file : SourceFile) : Value :=
  .record
    [("identifier", .text file.identifier),
     ("declarations", .list (Declaration.toValues file.declarations)),
     ("comments", .list (file.comments.map Comment.toValue))]

end DeclarationLint
