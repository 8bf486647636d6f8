import DeclarationLint.FileSystem.Path
import DeclarationLint.Location
import DeclarationLint.Value.Convert

/-!
# Faults

What ends a run before it has a result.
-/
namespace DeclarationLint

/-- What a syntax tree lacks. -/
inductive TreeDefect where
  | functionWithoutBody (start : Point)
  | functionWithoutDeclarator (start : Point)
  /-- The file's identifier is no text, which shows when a value of some type is made. -/
  | unusableIdentifier (shown type : String)
  /-- A rule found the tree unusable for a reason of its own. -/
  | reported (reason : String)
deriving DecidableEq, Repr

def TreeDefect.message : TreeDefect → String
  | functionWithoutBody start => s!"function definition without body at {start.render}"
  | functionWithoutDeclarator start =>
    s!"function definition without declarator at {start.render}"
  | unusableIdentifier shown type =>
    s!"invalid declaration tree for {shown}: 1 validation error for {type}"
  | reported reason => reason

inductive Fault where
  | malformedTree (defect : TreeDefect)
  | overflow (cause : NumberOverflow)
  | unusablePath (defect : PathDefect)
deriving DecidableEq, Repr

def Fault.message : Fault → String
  | malformedTree defect => defect.message
  | overflow cause => cause.message
  | unusablePath defect => defect.message

end DeclarationLint
