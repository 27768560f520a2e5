import Rulebook.LogFilter.Directive

/-!
# Log filters

A log filter is a list of directives with commas between them. More specific directives come first,
and of two that name the same the later one counts. `LogFilter.inForce` chooses the filter of a run.
-/

set_option autoImplicit false

namespace Rulebook

/-- The directives of a filter: those settled beforehand and those that look at spans. -/
structure LogFilter where
  statics : List Directive
  dynamics : List Directive

namespace LogFilter

/-- The filter of directives, where later ones replace earlier ones. -/
def ofDirectives (ds : List Directive) : LogFilter :=
  let dynamics := ds.filter Directive.isDynamic
  let statics := ds.filter (fun d => !d.isDynamic) ++ dynamics.filter Directive.isStatic
  ⟨statics.foldl (fun done d => Directive.insert d done) [],
    dynamics.foldl (fun done d => Directive.insert d done) []⟩

/-- The filter of a text, if all its directives can be read. Empty ones are passed over. -/
def read? (s : String) : Option LogFilter :=
  (((Text.partsAt ',' s.toList).filter (· ≠ [])).mapM Directive.read?).map ofDirectives

/-- A filter that logs everything down to information. -/
def standard : LogFilter := ⟨[⟨none, none, [], .info⟩], []⟩

/-- The filter in force: that of the environment if there is one, else the configured one, else the
standard one. One that cannot be read is passed over. -/
def inForce (own : Option String) (configured : String) : LogFilter :=
  ((own.bind read?).or (read? configured)).getD standard

/-- How a filter is shown. -/
def render (f : LogFilter) : String :=
  ",".intercalate ((f.statics ++ f.dynamics).map Directive.render)

end LogFilter

end Rulebook
