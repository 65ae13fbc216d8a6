/-
# Journals

A journal holds the events that its filter lets through, and the texts that the process prints
beside them on its error stream, both in the order of their appearance.  An event that the filter
holds back is not built at all, so computing its values can neither fail nor be noticed.
-/

import HeapFixtures.Log.Filter

namespace HeapFixtures
namespace Log

inductive Entry
  | event (event : Event)
  | printed (text : String)
  deriving DecidableEq

def Entry.event? : Entry → Option Event
  | .event e => some e
  | .printed _ => none

/-- A filter and what it has let through so far. -/
structure Journal where
  filter : Filter
  entries : Array Entry

namespace Journal

def start (filter : Filter) : Journal := ⟨filter, #[]⟩

/-- Whether events of an origin and a level that carry values of some names are written
here. -/
def enables (journal : Journal) (origin : Origin) (level : Level) (names : List String) :
    Bool :=
  journal.filter.enables origin level names

/-- Writes an event if the filter lets it through. -/
def emit (journal : Journal) (thread : Thread) (level : Level) (origin : Origin)
    (message : String) (fields : List (String × Value)) : Journal :=
  if journal.enables origin level (valueNames fields) then
    { journal with
      entries := journal.entries.push (.event ⟨thread, level, origin, message, fields⟩) }
  else journal

/-- Prints a text and a line end, which no filter holds back. -/
def print (journal : Journal) (text : String) : Journal :=
  { journal with entries := journal.entries.push (.printed text) }

def events (journal : Journal) : List Event :=
  journal.entries.toList.filterMap Entry.event?

theorem filter_emit (journal : Journal) (thread : Thread) (level : Level) (origin : Origin)
    (message : String) (fields : List (String × Value)) :
    (journal.emit thread level origin message fields).filter = journal.filter := by
  unfold emit
  split <;> rfl

/-- An event goes behind all others, or nowhere. -/
theorem events_emit (journal : Journal) (thread : Thread) (level : Level) (origin : Origin)
    (message : String) (fields : List (String × Value)) :
    (journal.emit thread level origin message fields).events =
      journal.events ++
        if journal.enables origin level (valueNames fields) then
          [⟨thread, level, origin, message, fields⟩]
        else [] := by
  unfold emit
  split <;> simp [events, Entry.event?]

theorem events_print (journal : Journal) (text : String) :
    (journal.print text).events = journal.events := by
  simp [print, events, Entry.event?]

end Journal
end Log
end HeapFixtures
