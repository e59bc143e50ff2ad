import Bindery.Schema.Basic
import Bindery.Error

/-!
# Merging schemas

Protocol descriptions come in several files. `Schema.merge` makes one schema of all files of a
version: the first definition of a domain counts, and each later one is dropped with a warning.
Versions come out in increasing order, the domains of each in the order in which they were first
seen.
-/

namespace Bindery

/-- The warning for a domain that is defined again. -/
def Warning.domainDropped (version : Version) (domain : String) : Warning :=
  ⟨"Domain is already defined, skipping",
    [("version", .text version.tag), ("domain", .text domain)]⟩

/-- Adds the domains of another file to a schema. The names that have been seen are those of the
domains that the schema has: a name is seen when its first domain is added, and only then, so a set
of names beside the domains would hold nothing else. -/
def Schema.absorb (s : Schema) : List Domain → Schema × List Warning
  | [] => (s, [])
  | d :: ds =>
    if s.domains.any (·.name == d.name) then
      let (merged, warnings) := s.absorb ds
      (merged, .domainDropped s.version d.name :: warnings)
    else
      Schema.absorb ⟨s.version, s.domains ++ [d]⟩ ds

/-- Adds a file to schemas of increasing versions. -/
def Schema.mergeInto (file : Schema) : List Schema → List Schema × List Warning
  | [] =>
    let (merged, warnings) := Schema.absorb ⟨file.version, []⟩ file.domains
    ([merged], warnings)
  | s :: rest =>
    if file.version.lt s.version then
      let (merged, warnings) := Schema.absorb ⟨file.version, []⟩ file.domains
      (merged :: s :: rest, warnings)
    else if file.version = s.version then
      let (merged, warnings) := s.absorb file.domains
      (merged :: rest, warnings)
    else
      let (merged, warnings) := file.mergeInto rest
      (s :: merged, warnings)

/-- Adds files, one after the other, to schemas of increasing versions. -/
def Schema.mergeAll (merged : List Schema) : List Schema → List Schema × List Warning
  | [] => (merged, [])
  | file :: files =>
    let (merged, warnings) := file.mergeInto merged
    let (all, later) := Schema.mergeAll merged files
    (all, warnings ++ later)

/-- One schema for each version among the files. -/
def Schema.merge (files : List Schema) : List Schema × List Warning :=
  Schema.mergeAll [] files

end Bindery
