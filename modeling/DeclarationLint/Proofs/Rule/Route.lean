import DeclarationLint.Proofs.FirstFailure
import DeclarationLint.Proofs.Position
import DeclarationLint.Proofs.Rule.Local
import DeclarationLint.Proofs.Settings.Cache
import DeclarationLint.Rule.Visitors

/-!
# The route of a walk

Two declarations of a file may be alike, so where a walk gets to is told by positions. A walk gets
to a declaration if and only if its kind is visited and no visit of a declaration around it has
refused to go on into the members; declarations of the other kinds hide nothing. It gets there
once, and in the order in which the declarations stand. A visit that fails is the last one.
-/
namespace DeclarationLint

/-- The declaration at a position inside another one, which is itself at the empty position. -/
def Declaration.memberAt? (declaration : Declaration) : Position → Option Declaration
  | [] => some declaration
  | index :: rest => declaration.members[index]?.bind (·.memberAt? rest)

def SourceFile.declarationAt? (file : SourceFile) : Position → Option Declaration
  | [] => none
  | index :: rest => file.declarations[index]?.bind (·.memberAt? rest)

namespace Rule

variable (rule : Rule) (settings : Settings) (runSettings : RunSettings)

/-- The declaration is visited, and the visit refuses to go on into its members. -/
def Closes (declaration : Declaration) : Prop :=
  declaration.kind.isVisited = true ∧
    (rule.visitOne settings runSettings declaration).result = .ok false

mutual

/-- The visits that a walk makes inside a declaration, with their positions there. -/
def route : Declaration → List (Position × Declaration)
  | ⟨kind, name, span, body, members⟩ =>
    (if kind.isVisited then [([], ⟨kind, name, span, body, members⟩)] else []) ++
      if rule.descends settings runSettings ⟨kind, name, span, body, members⟩ then
        routeAmong 0 members
      else []

/-- The same for several declarations, which are numbered from an index on. -/
def routeAmong (index : Nat) : List Declaration → List (Position × Declaration)
  | [] => []
  | declaration :: rest =>
    (route declaration).map (fun stop => (index :: stop.1, stop.2)) ++ routeAmong (index + 1) rest

end

variable {rule settings runSettings}

theorem descends_iff {declaration : Declaration} :
    rule.descends settings runSettings declaration = true ↔
      ¬ rule.Closes settings runSettings declaration := by
  unfold descends Closes
  by_cases visited : declaration.kind.isVisited = true
  · rw [if_pos visited]
    cases (rule.visitOne settings runSettings declaration).result with
    | error fault => simp
    | ok answer => cases answer <;> simp [visited]
  · simp [visited]

mutual

theorem map_snd_route (declaration : Declaration) :
    (rule.route settings runSettings declaration).map Prod.snd =
      rule.agenda settings runSettings declaration := by
  obtain ⟨kind, name, span, body, members⟩ := declaration
  rw [route, agenda, List.map_append]
  congr 1
  · split <;> rfl
  · split
    · exact map_snd_routeAmong 0 members
    · rfl

theorem map_snd_routeAmong (index : Nat) (declarations : List Declaration) :
    (rule.routeAmong settings runSettings index declarations).map Prod.snd =
      rule.agendaAll settings runSettings declarations := by
  cases declarations with
  | nil => rfl
  | cons declaration rest =>
    rw [routeAmong, agendaAll, List.map_append, List.map_map, ← map_snd_route declaration,
      ← map_snd_routeAmong (index + 1) rest]
    rfl

end

theorem routeAmong_eq_sideBySide (index : Nat) (declarations : List Declaration) :
    rule.routeAmong settings runSettings index declarations =
      sideBySide index (declarations.map (rule.route settings runSettings)) := by
  induction declarations generalizing index with
  | nil => rfl
  | cons declaration rest ih => rw [routeAmong, ih, List.map_cons, sideBySide]

theorem mem_routeAmong_iff {index : Nat} {declarations : List Declaration} {position : Position}
    {visited : Declaration} :
    (position, visited) ∈ rule.routeAmong settings runSettings index declarations ↔
      ∃ offset rest declaration, position = (index + offset) :: rest ∧
        declarations[offset]? = some declaration ∧
        (rest, visited) ∈ rule.route settings runSettings declaration := by
  rw [routeAmong_eq_sideBySide, mem_sideBySide_iff]
  simp only [List.getElem?_map, Option.map_eq_some_iff]
  constructor
  · intro member
    obtain ⟨offset, rest, listed, same, ⟨declaration, found, rfl⟩, inside⟩ := member
    exact ⟨offset, rest, declaration, same, found, inside⟩
  · intro member
    obtain ⟨offset, rest, declaration, same, found, inside⟩ := member
    exact ⟨offset, rest, _, same, ⟨declaration, found, rfl⟩, inside⟩

theorem nil_mem_route_iff {declaration visited : Declaration} :
    ([], visited) ∈ rule.route settings runSettings declaration ↔
      visited = declaration ∧ declaration.kind.isVisited = true := by
  obtain ⟨kind, name, span, body, members⟩ := declaration
  have below : ([], visited) ∉ rule.routeAmong settings runSettings 0 members := by
    intro member
    obtain ⟨offset, rest, other, same, -⟩ := mem_routeAmong_iff.mp member
    cases same
  have inside : ([], visited) ∉
      (if rule.descends settings runSettings ⟨kind, name, span, body, members⟩ = true then
        rule.routeAmong settings runSettings 0 members else []) := by
    split
    · exact below
    · exact List.not_mem_nil
  rw [route, List.mem_append, or_iff_left inside]
  by_cases isVisited : kind.isVisited = true <;> simp [isVisited]

theorem cons_mem_route_iff {declaration visited : Declaration} {index : Nat}
    {rest : Position} :
    (index :: rest, visited) ∈ rule.route settings runSettings declaration ↔
      rule.descends settings runSettings declaration = true ∧
        ∃ member, declaration.members[index]? = some member ∧
          (rest, visited) ∈ rule.route settings runSettings member := by
  obtain ⟨kind, name, span, body, members⟩ := declaration
  have here : (index :: rest, visited) ∉
      (if kind.isVisited = true then [([], ⟨kind, name, span, body, members⟩)] else []) := by
    split <;> simp
  rw [route, List.mem_append, or_iff_right here]
  by_cases descends :
      rule.descends settings runSettings ⟨kind, name, span, body, members⟩ = true
  · rw [if_pos descends, mem_routeAmong_iff]
    constructor
    · intro member
      obtain ⟨offset, others, inner, same, found, inside⟩ := member
      obtain ⟨first, rfl⟩ := List.cons.inj same
      rw [Nat.zero_add] at first
      exact ⟨descends, inner, by rw [first]; exact found, inside⟩
    · intro member
      obtain ⟨-, inner, found, inside⟩ := member
      exact ⟨index, rest, inner, by rw [Nat.zero_add], found, inside⟩
  · simp [descends]

/-- What stands in the way of a visit is only a visit around it that refuses to go on. -/
theorem mem_route_iff {declaration visited : Declaration} {position : Position} :
    (position, visited) ∈ rule.route settings runSettings declaration ↔
      declaration.memberAt? position = some visited ∧ visited.kind.isVisited = true ∧
        ∀ upper outer, upper <+: position → upper ≠ position →
          declaration.memberAt? upper = some outer → ¬ rule.Closes settings runSettings outer := by
  induction position generalizing declaration with
  | nil =>
    rw [nil_mem_route_iff]
    constructor
    · intro here
      obtain ⟨rfl, isVisited⟩ := here
      refine ⟨rfl, isVisited, ?_⟩
      intro upper outer inside different
      exact absurd (List.prefix_nil.mp inside) different
    · intro here
      obtain ⟨found, isVisited, -⟩ := here
      obtain rfl := Option.some.inj found
      exact ⟨rfl, isVisited⟩
  | cons index rest ih =>
    rw [cons_mem_route_iff, descends_iff, forall_around_cons_iff]
    simp only [ih, Declaration.memberAt?, Option.bind_eq_some_iff, Option.some.injEq]
    constructor
    · intro reached
      obtain ⟨opens, inner, found, there, isVisited, around⟩ := reached
      refine ⟨⟨inner, found, there⟩, isVisited, fun outer same => same ▸ opens, ?_⟩
      intro lower outer deeper different at_
      obtain ⟨other, again, at_⟩ := at_
      obtain rfl := Option.some.inj (found.symm.trans again)
      exact around lower outer deeper different at_
    · intro reached
      obtain ⟨⟨inner, found, there⟩, isVisited, opens, around⟩ := reached
      refine ⟨opens declaration rfl, inner, found, there, isVisited, ?_⟩
      intro lower outer deeper different at_
      exact around lower outer deeper different ⟨inner, found, at_⟩

mutual

/-- The positions of a route are in order, so that none comes twice. -/
theorem pairwise_route (declaration : Declaration) :
    ((rule.route settings runSettings declaration).map Prod.fst).Pairwise
      (List.Lex (· < ·)) := by
  obtain ⟨kind, name, span, body, members⟩ := declaration
  have inside := pairwise_routeAmong 0 members
  rw [route, List.map_append, List.pairwise_append]
  refine ⟨?_, ?_, ?_⟩
  · split
    · exact List.pairwise_singleton _ _
    · exact List.Pairwise.nil
  · split
    · exact inside
    · exact List.Pairwise.nil
  · intro first here second there
    split at here
    · obtain rfl := List.mem_singleton.mp here
      split at there
      · obtain ⟨⟨position, visited⟩, member, rfl⟩ := List.mem_map.mp there
        obtain ⟨offset, rest, other, rfl, -⟩ := mem_routeAmong_iff.mp member
        exact List.Lex.nil
      · cases there
    · cases here

theorem pairwise_routeAmong (index : Nat) (declarations : List Declaration) :
    ((rule.routeAmong settings runSettings index declarations).map Prod.fst).Pairwise
      (List.Lex (· < ·)) := by
  rw [routeAmong_eq_sideBySide]
  apply pairwise_sideBySide
  intro listed member
  obtain ⟨declaration, inside, rfl⟩ := List.mem_map.mp member
  exact pairwise_route declaration

end

/-- The positions of a file that a run gets to, each with the declaration there: all those of
visited kinds that no visit around them hides, in the order in which they stand. -/
structure IsRoute (rule : Rule) (settings : Settings) (runSettings : RunSettings)
    (file : SourceFile) (route : List (Position × Declaration)) : Prop where
  ordered : (route.map Prod.fst).Pairwise (List.Lex (· < ·))
  mem_iff : ∀ position declaration, (position, declaration) ∈ route ↔
    file.declarationAt? position = some declaration ∧ declaration.kind.isVisited = true ∧
      ∀ upper outer, upper <+: position → upper ≠ position →
        file.declarationAt? upper = some outer → ¬ rule.Closes settings runSettings outer

variable (rule settings runSettings) in
theorem isRoute_routeAmong (file : SourceFile) :
    rule.IsRoute settings runSettings file
      (rule.routeAmong settings runSettings 0 file.declarations) where
  ordered := pairwise_routeAmong 0 file.declarations
  mem_iff position visited := by
    rw [mem_routeAmong_iff]
    cases position with
    | nil => simp [SourceFile.declarationAt?]
    | cons index rest =>
      rw [forall_around_cons_iff]
      simp only [mem_route_iff, SourceFile.declarationAt?, Option.bind_eq_some_iff]
      constructor
      · intro reached
        obtain ⟨offset, inner, declaration, same, found, there, isVisited, around⟩ := reached
        obtain ⟨rfl, rfl⟩ := List.cons.inj same
        rw [Nat.zero_add]
        refine ⟨⟨declaration, found, there⟩, isVisited, by simp, ?_⟩
        intro lower outer deeper different at_
        obtain ⟨other, again, at_⟩ := at_
        obtain rfl := Option.some.inj (found.symm.trans again)
        exact around lower outer deeper different at_
      · intro reached
        obtain ⟨⟨declaration, found, there⟩, isVisited, -, around⟩ := reached
        refine ⟨index, rest, declaration, by rw [Nat.zero_add], found, there, isVisited, ?_⟩
        intro lower outer deeper different at_
        exact around lower outer deeper different ⟨declaration, found, at_⟩

variable (rule settings runSettings) in
/-- Visits one after the other either all succeed, or there is a first one that fails, and it is
the last one made. -/
theorem visitEach_cases (declarations : List Declaration) :
    ((∀ declaration ∈ declarations, rule.Succeeds settings runSettings declaration) ∧
      rule.visitEach settings runSettings declarations =
        ⟨declarations.flatMap fun declaration =>
          (rule.visitOne settings runSettings declaration).entries, .ok ()⟩) ∨
    ∃ before failing after fault, declarations = before ++ failing :: after ∧
      (∀ declaration ∈ before, rule.Succeeds settings runSettings declaration) ∧
      (rule.visitOne settings runSettings failing).result = .error fault ∧
      rule.visitEach settings runSettings declarations =
        ⟨(before ++ [failing]).flatMap fun declaration =>
          (rule.visitOne settings runSettings declaration).entries, .error fault⟩ := by
  induction declarations with
  | nil => exact Or.inl ⟨by simp, rfl⟩
  | cons declaration rest ih =>
    cases outcome : (rule.visitOne settings runSettings declaration).result with
    | error fault =>
      refine Or.inr ⟨[], declaration, rest, fault, rfl, by simp, outcome, ?_⟩
      rw [visitEach, Journal.bind_of_error outcome, List.nil_append, List.flatMap_singleton]
    | ok answer =>
      have first : rule.Succeeds settings runSettings declaration := ⟨answer, outcome⟩
      rw [visitEach, Journal.bind_of_ok outcome]
      rcases ih with ⟨succeed, walked⟩ | ⟨before, failing, after, fault, split, succeed, failed,
        walked⟩
      · refine Or.inl ⟨?_, ?_⟩
        · intro visited member
          cases List.mem_cons.mp member with
          | inl same => exact same ▸ first
          | inr later => exact succeed visited later
        · rw [walked, List.flatMap_cons]
      · refine Or.inr ⟨declaration :: before, failing, after, fault, ?_, ?_, failed, ?_⟩
        · rw [split, List.cons_append]
        · intro visited member
          cases List.mem_cons.mp member with
          | inl same => exact same ▸ first
          | inr later => exact succeed visited later
        · rw [walked, List.cons_append, List.flatMap_cons]

/-- A check that fails does so with the failure of a visit. -/
theorem exists_visitOne_error_of_check {file : SourceFile} {fault : Fault}
    (failed : (rule.check runSettings settings file).result = .error fault) :
    ∃ declaration ∈ rule.agendaAll settings runSettings file.declarations,
      (rule.visitOne settings runSettings declaration).result = .error fault := by
  rw [check, walkAll_eq_visitEach, outcome] at failed
  rcases visitEach_cases rule settings runSettings
      (rule.agendaAll settings runSettings file.declarations) with
    ⟨-, visited⟩ | ⟨before, failing, after, first, split, -, reason, visited⟩
  · rw [visited] at failed
    cases failed
  · rw [visited] at failed
    cases failed
    exact ⟨failing, by simp [split], reason⟩

/-- The declaration is visited by the method for its kind, in a context whose declaration is this
one, so that the settings on its line are those of its own first line. -/
def VisitedBy (rule : Rule) (visitors : Visitors) (settings : Settings)
    (runSettings : RunSettings) (declaration : Declaration) : Prop :=
  ∃ method context, visitors.method? declaration.kind = some method ∧
    rule.visitOne settings runSettings declaration =
      (do Journal.write (.visit declaration)
          rule.perform context (method declaration)) ∧
    context.settings = settings ∧ context.runSettings = runSettings ∧
    context.current = some declaration ∧
    context.lineSettings = settings.configurationAt declaration.span.start.line

theorem HasVisitors.visitedBy {visitors : Visitors} (given : rule.HasVisitors visitors)
    {declaration : Declaration} (isVisited : declaration.kind.isVisited = true) :
    rule.VisitedBy visitors settings runSettings declaration := by
  rw [← visitors.isSome_method?] at isVisited
  obtain ⟨method, found⟩ := Option.isSome_iff_exists.mp isVisited
  refine ⟨method, ⟨settings, runSettings, some declaration⟩, found, ?_, rfl, rfl, rfl, rfl⟩
  rw [visitOne, given declaration method found]

theorem visits_of_entries {file : SourceFile} {visited : List Declaration}
    (entries : (rule.walkAll settings runSettings file.declarations).entries =
      visited.flatMap fun declaration =>
        (rule.visitOne settings runSettings declaration).entries) :
    rule.visits runSettings settings file = visited := by
  rw [visits, entries, List.filterMap_flatMap]
  simp [visits_visitOne]

/-- A check works through the route of the file, and ends at the first visit that fails. -/
theorem check_follows_routeAmong (file : SourceFile) :
    let route := rule.routeAmong settings runSettings 0 file.declarations
    (∀ stop ∈ route, rule.Succeeds settings runSettings stop.2) ∧
        rule.visits runSettings settings file = route.map Prod.snd ∧
        (rule.check runSettings settings file).result = .ok (route.flatMap fun stop =>
          (rule.visitOne settings runSettings stop.2).entries.filterMap Finding.issue?) ∨
      ∃ before failing after fault, route = before ++ failing :: after ∧
        (∀ stop ∈ before, rule.Succeeds settings runSettings stop.2) ∧
        (rule.visitOne settings runSettings failing.2).result = .error fault ∧
        rule.visits runSettings settings file = (before ++ [failing]).map Prod.snd ∧
        (rule.check runSettings settings file).result = .error fault := by
  intro route
  have walked : rule.walkAll settings runSettings file.declarations = _ :=
    walkAll_eq_visitEach file.declarations
  rw [← map_snd_routeAmong 0] at walked
  change _ = rule.visitEach settings runSettings (route.map Prod.snd) at walked
  rcases visitEach_cases rule settings runSettings (route.map Prod.snd) with
    ⟨succeed, visited⟩ | ⟨before, failing, after, fault, split, succeed, failed, visited⟩
  · rw [visited] at walked
    refine Or.inl ⟨?_, visits_of_entries (by rw [walked]), ?_⟩
    · intro stop member
      exact succeed stop.2 (List.mem_map_of_mem member)
    · have issues : ((route.map Prod.snd).flatMap fun declaration =>
          (rule.visitOne settings runSettings declaration).entries).filterMap Finding.issue? =
            route.flatMap fun stop =>
              (rule.visitOne settings runSettings stop.2).entries.filterMap Finding.issue? := by
        rw [List.filterMap_flatMap, List.flatMap_map]
      rw [check, walked, ← issues]
      rfl
  · rw [visited] at walked
    -- The stop that fails is found by its place in the list, since another stop may be like it.
    obtain ⟨first, others, same, rfl, rest⟩ := List.map_eq_append_iff.mp split
    obtain ⟨stop, last, rfl, rfl, -⟩ := List.map_eq_cons_iff.mp rest
    refine Or.inr ⟨first, stop, last, fault, same, ?_, failed, ?_, ?_⟩
    · intro earlier member
      exact succeed earlier.2 (List.mem_map_of_mem member)
    · rw [List.map_append, List.map_singleton]
      exact visits_of_entries (by rw [walked])
    · rw [check, walked]
      rfl

/-- A run visits the declarations on its route by the methods for their kinds. If they all succeed,
it has the issues of all of them. Otherwise it ends at the first that fails, with that failure.
In either case the cache holds the settings that the visits have seen, which are new or were there
before. -/
theorem run_follows_route (rule : Rule) {visitors : Visitors} (given : rule.HasVisitors visitors)
    (runSettings : RunSettings) (cache : SettingsCache) (file : SourceFile) :
    ∃ reading route,
      (rule.run runSettings cache file).1.readings.get? file.identifier = some reading ∧
      (cache.readings.get? file.identifier = some reading ∨
        reading.settings = Settings.ofFile file) ∧
      rule.IsRoute reading.settings runSettings file route ∧
      (∀ stop ∈ route, rule.VisitedBy visitors reading.settings runSettings stop.2) ∧
      ((∀ stop ∈ route, rule.Succeeds reading.settings runSettings stop.2) ∧
          rule.visits runSettings reading.settings file = route.map Prod.snd ∧
          (rule.run runSettings cache file).2.result = .ok (route.flatMap fun stop =>
            (rule.visitOne reading.settings runSettings stop.2).entries.filterMap
              Finding.issue?) ∨
        ∃ before failing after fault, route = before ++ failing :: after ∧
          (∀ stop ∈ before, rule.Succeeds reading.settings runSettings stop.2) ∧
          (rule.visitOne reading.settings runSettings failing.2).result = .error fault ∧
          rule.visits runSettings reading.settings file =
            (before ++ [failing]).map Prod.snd ∧
          (rule.run runSettings cache file).2.result = .error fault) := by
  have isRoute := isRoute_routeAmong rule (cache.settingsFor file).1.settings runSettings file
  refine ⟨(cache.settingsFor file).1, _, cache.get?_settingsFor file,
    cache.settingsFor_origin file, isRoute, ?_, check_follows_routeAmong file⟩
  intro stop member
  exact given.visitedBy ((isRoute.mem_iff stop.1 stop.2).mp member).2.1

/-- A type that is closed and another one with a fault inside, behind a binding with a body of its
own and two functions that are alike. -/
def routedFile : SourceFile where
  identifier := "a.c"
  declarations :=
    [⟨.binding, "closed", .between "a.c" 1 1 4 2, none,
        [⟨.function, "f", .between "a.c" 2 1 2 9, none, []⟩,
          ⟨.function, "f", .between "a.c" 2 1 2 9, none, []⟩]⟩,
      ⟨.typeDefinition, "closed", .between "a.c" 5 1 8 2, none,
        [⟨.function, "hidden", .between "a.c" 6 1 6 9, none, []⟩]⟩,
      ⟨.typeDefinition, "T", .between "a.c" 9 1 12 2, none,
        [⟨.deinitializer, "bad", .between "a.c" 10 1 10 9, none, []⟩]⟩,
      ⟨.function, "late", .between "a.c" 13 1 13 9, none, []⟩]
  comments := []

def choosy : Rule :=
  RuleScript.rule ⟨"choosy", .minor, .naming, [], ["closed"], ["bad"], none, none, false⟩

theorem run_follows_route_choosy :
    (choosy.run .empty .empty routedFile).2.result =
        .error (.malformedTree (.reported "fault at bad")) ∧
      ((choosy.run .empty .empty routedFile).1.readings.get? "a.c").isSome = true ∧
      ∃ before failing after,
        choosy.IsRoute (Settings.ofFile routedFile) .empty routedFile
          (before ++ failing :: after) ∧
        (before ++ [failing]).map (fun stop => stop.2.name) = ["f", "f", "closed", "T", "bad"] := by
  have failure : (choosy.run .empty .empty routedFile).2.result =
      .error (.malformedTree (.reported "fault at bad")) := rfl
  obtain ⟨reading, route, held, origin, isRoute, -, outcome⟩ :=
    run_follows_route choosy (hasVisitors_all choosy) .empty .empty routedFile
  have settings : reading.settings = Settings.ofFile routedFile := by
    rcases origin with remembered | fresh
    · cases remembered
    · exact fresh
  rw [settings] at isRoute outcome
  rcases outcome with ⟨-, -, success⟩ | ⟨before, failing, after, fault, rfl, -, -, visits, -⟩
  · cases failure.symm.trans success
  · refine ⟨failure, Option.isSome_iff_exists.mpr ⟨reading, held⟩, before, failing, after,
      isRoute, ?_⟩
    have names := congrArg (List.map Declaration.name) visits
    rw [List.map_map] at names
    exact names.symm

end Rule
end DeclarationLint
