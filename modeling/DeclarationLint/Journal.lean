/-!
# Journals

A computation that writes entries as it goes and may fail. What was written before a failure
stays written; nothing is written after it.
-/
namespace DeclarationLint

structure Journal (ω ε α : Type) where
  entries : List ω
  result : Except ε α
deriving Repr

namespace Journal

variable {ω ε α β : Type}

def write (entry : ω) : Journal ω ε Unit := ⟨[entry], .ok ()⟩

def fail (error : ε) : Journal ω ε α := ⟨[], .error error⟩

def ofExcept (result : Except ε α) : Journal ω ε α := ⟨[], result⟩

protected def bind (first : Journal ω ε α) (next : α → Journal ω ε β) : Journal ω ε β :=
  match first.result with
  | .ok value => ⟨first.entries ++ (next value).entries, (next value).result⟩
  | .error error => ⟨first.entries, .error error⟩

instance : Monad (Journal ω ε) where
  pure value := ⟨[], .ok value⟩
  bind := Journal.bind

@[simp] theorem entries_pure (value : α) : (pure value : Journal ω ε α).entries = [] := rfl

@[simp] theorem result_pure (value : α) : (pure value : Journal ω ε α).result = .ok value := rfl

theorem bind_of_ok {first : Journal ω ε α} {value : α} (success : first.result = .ok value)
    (next : α → Journal ω ε β) :
    first >>= next = ⟨first.entries ++ (next value).entries, (next value).result⟩ := by
  simp [bind, Journal.bind, success]

theorem bind_of_error {first : Journal ω ε α} {error : ε} (failure : first.result = .error error)
    (next : α → Journal ω ε β) : first >>= next = ⟨first.entries, .error error⟩ := by
  simp [bind, Journal.bind, failure]

private theorem id_map_journal (journal : Journal ω ε α) : id <$> journal = journal := by
  obtain ⟨entries, result⟩ := journal
  cases result <;> simp [Functor.map, Journal.bind]

private theorem pure_bind_journal (value : α) (next : α → Journal ω ε β) :
    (pure value : Journal ω ε α) >>= next = next value := by
  simp [bind, Journal.bind, pure]

private theorem bind_assoc_journal {γ : Type} (journal : Journal ω ε α)
    (next : α → Journal ω ε β) (last : β → Journal ω ε γ) :
    journal >>= next >>= last = journal >>= fun value => next value >>= last := by
  obtain ⟨entries, result⟩ := journal
  cases result with
  | error error => simp [bind, Journal.bind]
  | ok value =>
    simp only [bind, Journal.bind]
    cases (next value).result <;> simp

instance : LawfulMonad (Journal ω ε) :=
  LawfulMonad.mk' _ id_map_journal pure_bind_journal bind_assoc_journal

end Journal
end DeclarationLint
