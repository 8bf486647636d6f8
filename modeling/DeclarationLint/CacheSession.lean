import DeclarationLint.Rule.StatementCount

/-!
# Sessions with remembered settings

Files live on while their settings are asked for, remembered and dropped. A session takes one
step after the other and answers each.
-/
namespace DeclarationLint

/-- Files are called by name here, and several of them may have one identifier. -/
inductive CacheStep where
  /-- Asks for the settings of a file. -/
  | settings (name : String)
  /-- Adds a comment to a file, which the cache does not notice. -/
  | comment (name : String) (comment : Comment)
  | invalidate (identifier : String)
  | clear
  | contains (identifier : String)
  /-- Counts the statements of a file's functions, with no settings for the run. -/
  | lint (name : String)
deriving Repr

inductive CacheAnswer where
  | reading (reading : Reading)
  | comments (comments : List Comment)
  | done
  | held (known : Bool)
  | linted (result : Except Fault (List Issue))
  | unknownFile

structure CacheSession where
  cache : SettingsCache
  files : KeyedList String SourceFile

namespace CacheSession

def start (files : KeyedList String SourceFile) : CacheSession := ⟨.empty, files⟩

def stepOn (session : CacheSession) (name : String)
    (answer : SourceFile → CacheAnswer × CacheSession) : CacheAnswer × CacheSession :=
  match session.files.get? name with
  | some file => answer file
  | none => (.unknownFile, session)

def step (session : CacheSession) : CacheStep → CacheAnswer × CacheSession
  | .settings name => session.stepOn name fun file =>
    let (reading, cache) := session.cache.settingsFor file
    (.reading reading, { session with cache := cache })
  | .comment name comment => session.stepOn name fun file =>
    let commented := { file with comments := file.comments ++ [comment] }
    (.comments commented.comments,
      { session with files := session.files.insert name commented })
  | .invalidate identifier =>
    (.done, { session with cache := session.cache.invalidate identifier })
  | .clear => (.done, { session with cache := session.cache.clear })
  | .contains identifier => (.held (session.cache.contains identifier), session)
  | .lint name => session.stepOn name fun file =>
    let (cache, linted) := Rule.StatementCount.rule.run .empty session.cache file
    (.linted linted.result, { session with cache := cache })

/-- All answers of a session, each with the number of readings remembered after it. -/
def run : CacheSession → List CacheStep → List (CacheAnswer × Nat)
  | _, [] => []
  | session, step :: rest =>
    let (answer, next) := session.step step
    (answer, next.cache.size) :: next.run rest

end CacheSession
end DeclarationLint
