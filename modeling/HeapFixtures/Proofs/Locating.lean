/-
# Where a log file lies

A path that is written out is split into the directory and the name of a log file, and joining
the two undoes that.  Paths are compared by their components, which the pieces of their texts
determine: the first piece says where the path begins, each piece that is neither empty nor a dot
is a component, and no other piece counts.  The split is therefore at the last piece that counts,
and the text in front of it is the directory.
-/

import Mathlib.Data.List.Induction
import HeapFixtures.Log.Setup
import HeapFixtures.Proofs.Pieces

namespace HeapFixtures
namespace Log

open Text (pieces)

/-- A piece that is a component wherever it stands, and no way up. -/
structure ProperName (name : String) : Prop where
  ne_empty : name ≠ ""
  ne_here : name ≠ "."
  ne_up : name ≠ ".."
  slashless : '/' ∉ name.toList

/-- A component that may stand anywhere in a path. -/
def Component.Inner (component : Component) : Prop :=
  component = .up ∨ ∃ name, ProperName name ∧ component = .normal name

namespace Path

/-- Where a path begins, by its pieces. -/
def start : List String → Path
  | [] => []
  | piece :: rest =>
    if piece = "" ∧ rest ≠ [] then [.root] else if piece = "." then [.here] else []

/-- The components that pieces are, wherever they stand. -/
def inner (row : List String) : Path :=
  (row.filter fun piece => piece ≠ "" && piece ≠ ".").map Component.ofPiece

/-- The text of a path to which a name is joined, by a slash if the path does not end in one. -/
def joined (folder name : String) : String :=
  if folder = "" ∨ folder.toList.getLast? = some '/' then folder ++ name
  else folder ++ "/" ++ name

/-- A path that some text has. -/
def Lawful (path : Path) : Prop :=
  ∃ front back, path = front ++ back ∧ (front = [] ∨ front = [.root] ∨ front = [.here]) ∧
    ∀ component ∈ back, component.Inner

section Pieces

variable {row front back : List String} {name folder text : String}

theorem ofText_eq (text : String) :
    ofText text = start (pieces '/' text) ++ inner (pieces '/' text) := by
  have hsplit : text.splitOn "/" = pieces '/' text := Text.splitOn_eq_pieces text '/'
  rw [ofText, hsplit]
  congr 1
  generalize pieces '/' text = row
  unfold start
  split
  · simp
  · simp
  · next hroot hhere =>
      cases row with
      | nil => rfl
      | cons piece rest =>
          have hfirst : ¬ (piece = "" ∧ rest ≠ []) := by
            rintro ⟨rfl, hrest⟩
            obtain ⟨second, others, rfl⟩ := List.exists_cons_of_ne_nil hrest
            exact hroot second others rfl
          have hsecond : piece ≠ "." := by
            rintro rfl
            exact hhere rest rfl
          simp [hfirst, hsecond]

theorem inner_append (front back : List String) :
    inner (front ++ back) = inner front ++ inner back := by
  simp [inner]

theorem inner_singleton_name (proper : ProperName name) : inner [name] = [.normal name] := by
  simp [inner, proper.ne_empty, proper.ne_here, Component.ofPiece, proper.ne_up]

theorem inner_singleton_empty : inner [""] = [] := rfl

/-- Where a path begins does not depend on the pieces behind the first, if there are some. -/
theorem start_append {back other : List String} (hne : front ≠ []) (hback : back ≠ [])
    (hother : other ≠ []) : start (front ++ back) = start (front ++ other) := by
  obtain ⟨piece, rest, rfl⟩ := List.exists_cons_of_ne_nil hne
  simp [start, hback, hother]

/-- A slash at the end of a path that is not empty counts for nothing. -/
theorem start_append_empty (hne : row ≠ []) (hfull : row ≠ [""]) :
    start (row ++ [""]) = start row := by
  obtain ⟨piece, rest, rfl⟩ := List.exists_cons_of_ne_nil hne
  by_cases hrest : rest = []
  · subst hrest
    have hpiece : piece ≠ "" := fun h => hfull (by rw [h])
    simp [start, hpiece]
  · simp [start, hrest]

theorem pieces_append_slash (folder : String) :
    pieces '/' (folder ++ "/") = pieces '/' folder ++ [""] := by
  have hempty : pieces '/' "" = [""] := Text.pieces_of_not_mem List.not_mem_nil
  rw [← hempty, ← Text.pieces_append '/' folder ""]
  simp

/-- A name behind a slash is one more component. -/
theorem ofText_slash (folder : String) (proper : ProperName name) :
    ofText (folder ++ "/" ++ name) = ofText (folder ++ "/") ++ [.normal name] := by
  have hname : pieces '/' (folder ++ "/" ++ name) = pieces '/' folder ++ [name] := by
    rw [← Text.pieces_of_not_mem proper.slashless]
    exact Text.pieces_append '/' folder name
  rw [ofText_eq, ofText_eq, hname, pieces_append_slash, inner_append, inner_append,
    start_append (Text.pieces_ne_nil _ _) (List.cons_ne_nil name []) (List.cons_ne_nil "" []),
    inner_singleton_name proper, inner_singleton_empty, List.append_nil, List.append_assoc]

/-- A slash behind a path that is not empty changes nothing. -/
theorem ofText_append_slash (hne : folder ≠ "") : ofText (folder ++ "/") = ofText folder := by
  have hfull : pieces '/' folder ≠ [""] := by
    intro hempty
    have hwhole := Text.intercalate_pieces '/' folder
    rw [hempty] at hwhole
    exact hne (by simpa using hwhole.symm)
  rw [ofText_eq, ofText_eq, pieces_append_slash, inner_append,
    start_append_empty (Text.pieces_ne_nil _ _) hfull, inner_singleton_empty, List.append_nil]

/-- Joining a name to a path that is not empty adds a component at its end. -/
theorem ofText_joined (hne : folder ≠ "") (proper : ProperName name) :
    ofText (joined folder name) = ofText folder ++ [.normal name] := by
  rw [joined]
  split
  · next hends =>
      obtain ⟨letters, hletters⟩ :=
        List.getLast?_eq_some_iff.1 (hends.resolve_left hne)
      have hfolder : folder = String.ofList letters ++ "/" := by
        rw [← String.toList_inj, hletters]
        simp
      rw [hfolder]
      exact ofText_slash _ proper
  · rw [ofText_slash folder proper, ofText_append_slash hne]

/-- A name alone is a path of one component. -/
theorem ofText_name (proper : ProperName name) : ofText name = [.normal name] := by
  rw [ofText_eq, Text.pieces_of_not_mem proper.slashless, inner_singleton_name proper]
  simp [start, proper.ne_here]

theorem ofText_empty : ofText "" = [] := by
  rw [ofText_eq, Text.pieces_of_not_mem (by simp)]
  rfl

/-- The last component of a row of pieces is its last piece that counts. -/
theorem getLast_inner {component : Component} (h : (inner row).getLast? = some component) :
    ∃ front piece back, row = front ++ piece :: back ∧ component = Component.ofPiece piece ∧
      piece ≠ "" ∧ piece ≠ "." ∧ ∀ other ∈ back, other = "" ∨ other = "." := by
  induction row using List.reverseRecOn with
  | nil => cases h
  | append_singleton row piece ih =>
      rw [inner_append] at h
      by_cases hpiece : piece = "" ∨ piece = "."
      · have hnone : inner [piece] = [] := by
          rcases hpiece with rfl | rfl <;> rfl
        rw [hnone, List.append_nil] at h
        obtain ⟨front, counted, back, rfl, hcomponent, hempty, hhere, hback⟩ := ih h
        refine ⟨front, counted, back ++ [piece], by simp, hcomponent, hempty, hhere, ?_⟩
        intro other hother
        rcases List.mem_append.1 hother with hold | hnew
        · exact hback other hold
        · rwa [List.mem_singleton.1 hnew]
      · obtain ⟨hempty, hhere⟩ := not_or.1 hpiece
        have hone : inner [piece] = [Component.ofPiece piece] := by
          simp [inner, hempty, hhere]
        rw [hone, List.getLast?_concat] at h
        exact ⟨row, piece, [], rfl, (Option.some.inj h).symm, hempty, hhere, by simp⟩

theorem inner_eq_nil (h : ∀ piece ∈ row, piece = "" ∨ piece = ".") : inner row = [] := by
  rw [inner, List.filter_eq_nil_iff.2, List.map_nil]
  intro piece hpiece
  rcases h piece hpiece with rfl | rfl <;> simp

theorem inner_name_cons (proper : ProperName name)
    (h : ∀ piece ∈ back, piece = "" ∨ piece = ".") : inner (name :: back) = [.normal name] := by
  rw [← List.singleton_append, inner_append, inner_singleton_name proper, inner_eq_nil h]
  rfl

theorem start_eq_or (row : List String) :
    start row = [] ∨ start row = [.root] ∨ start row = [.here] := by
  unfold start
  split
  · exact .inl rfl
  · split
    · exact .inr (.inl rfl)
    · split
      · exact .inr (.inr rfl)
      · exact .inl rfl

/-- A path whose last component is a name is written as the path in front of it, the name, and a
rest that does not count. -/
theorem exists_folder (h : (ofText text).getLast? = some (.normal name)) :
    ProperName name ∧ ∃ folder rest, text = folder ++ name ++ rest ∧
      ofText text = ofText folder ++ [.normal name] := by
  have hinner : (inner (pieces '/' text)).getLast? = some (.normal name) := by
    rw [ofText_eq, List.getLast?_append] at h
    cases hlast : (inner (pieces '/' text)).getLast? with
    | some component => simpa [hlast] using h
    | none =>
        rw [hlast, Option.none_or] at h
        rcases start_eq_or (pieces '/' text) with hstart | hstart | hstart <;>
          · rw [hstart] at h
            cases h
  obtain ⟨front, piece, back, hrow, hpiece, hempty, hhere, hback⟩ := getLast_inner hinner
  have hup : piece ≠ ".." := by
    rintro rfl
    cases hpiece
  obtain rfl : name = piece := by
    rw [Component.ofPiece, if_neg hup] at hpiece
    exact Component.normal.inj hpiece
  have hslash : ∀ other ∈ front ++ name :: back, '/' ∉ other.toList := by
    intro other hother
    exact Text.not_mem_of_mem_pieces (hrow ▸ hother)
  have proper : ProperName name := ⟨hempty, hhere, hup, hslash name (by simp)⟩
  have htext : text = ("/").intercalate (front ++ name :: back) := by
    rw [← hrow]
    exact (Text.intercalate_pieces '/' text).symm
  obtain ⟨rest, hrest⟩ : ∃ rest, ("/").intercalate (name :: back) = name ++ rest := by
    by_cases hnone : back = []
    · exact ⟨"", by simp [hnone]⟩
    · exact ⟨_, (Text.intercalate_append '/' (List.cons_ne_nil name []) hnone).trans
        (by rw [String.append_assoc]; simp; rfl)⟩
  refine ⟨proper, ?_⟩
  by_cases hfront : front = []
  · subst hfront
    refine ⟨"", rest, by simpa [htext] using hrest, ?_⟩
    rw [ofText_empty, ofText_eq, hrow, List.nil_append, inner_name_cons proper hback]
    simp [start, proper.ne_empty, proper.ne_here]
  · refine ⟨("/").intercalate front ++ "/", rest, ?_, ?_⟩
    · rw [htext, String.append_assoc, ← hrest]
      exact Text.intercalate_append '/' hfront (List.cons_ne_nil _ _)
    · have hpieces : pieces '/' (("/").intercalate front) = front :=
        Text.pieces_intercalate hfront fun other hother =>
          hslash other (List.mem_append_left _ hother)
      rw [ofText_eq, ofText_eq, hrow, pieces_append_slash, hpieces,
        start_append hfront (List.cons_ne_nil name back) (List.cons_ne_nil "" []),
        inner_append, inner_append, inner_name_cons proper hback, inner_singleton_empty]
      simp

end Pieces

section Lawful

variable {path above : Path} {component : Component} {name : String}

/-- A component that may stand anywhere is read back from how it is written. -/
theorem inner_text (h : component.Inner) : inner [component.text] = [component] := by
  rcases h with rfl | ⟨name, proper, rfl⟩
  · rfl
  · exact inner_singleton_name proper

theorem inner_map_text (h : ∀ component ∈ path, component.Inner) :
    inner (path.map Component.text) = path := by
  induction path with
  | nil => rfl
  | cons component path ih =>
      obtain ⟨hfirst, hrest⟩ := List.forall_mem_cons.1 h
      rw [List.map_cons, ← List.singleton_append, inner_append, inner_text hfirst, ih hrest,
        List.singleton_append]

theorem ofText_lawful (text : String) : (ofText text).Lawful := by
  refine ⟨start (pieces '/' text), inner (pieces '/' text), ofText_eq text, start_eq_or _, ?_⟩
  intro component hcomponent
  obtain ⟨piece, hpiece, rfl⟩ := List.mem_map.1 hcomponent
  obtain ⟨hmem, hcounts⟩ := List.mem_filter.1 hpiece
  obtain ⟨hempty, hhere⟩ : piece ≠ "" ∧ piece ≠ "." := by simpa using hcounts
  by_cases hup : piece = ".."
  · exact .inl (if_pos hup)
  · exact .inr ⟨piece, ⟨hempty, hhere, hup, Text.not_mem_of_mem_pieces hmem⟩, if_neg hup⟩

theorem start_map_text (h : ∀ component ∈ path, component.Inner) :
    start (path.map Component.text) = [] := by
  cases path with
  | nil => rfl
  | cons component path =>
      rcases h component List.mem_cons_self with rfl | ⟨name, proper, rfl⟩
      · rfl
      · simp [start, Component.text, proper.ne_empty, proper.ne_here]

theorem Lawful.slashless (h : path.Lawful) :
    ∀ piece ∈ path.map Component.text, '/' ∉ piece.toList := by
  obtain ⟨front, back, rfl, hfront, hback⟩ := h
  intro piece hpiece
  obtain ⟨component, hcomponent, rfl⟩ := List.mem_map.1 hpiece
  rcases List.mem_append.1 hcomponent with hfirst | hrest
  · rcases hfront with rfl | rfl | rfl
    · cases hfirst
    · rw [List.mem_singleton.1 hfirst]
      decide
    · rw [List.mem_singleton.1 hfirst]
      decide
  · rcases hback component hrest with rfl | ⟨name, proper, rfl⟩
    · decide
    · exact proper.slashless

/-- A path is read back from how it is written. -/
theorem Lawful.ofText_toText (h : path.Lawful) : ofText path.toText = path := by
  by_cases hroot : path = [.root]
  · subst hroot
    rw [toText, ofText_eq]
    have hslash : pieces '/' "/" = ["", ""] := by
      simpa [Text.pieces_of_not_mem] using pieces_append_slash ""
    rw [hslash]
    rfl
  · have htext : path.toText = ("/").intercalate (path.map Component.text) := by
      rw [toText]
      intro h
      exact hroot h
    by_cases hnil : path = []
    · subst hnil
      exact ofText_empty
    · have hpieces : pieces '/' path.toText = path.map Component.text := by
        rw [htext]
        exact Text.pieces_intercalate (by simpa using hnil) h.slashless
      rw [ofText_eq, hpieces]
      obtain ⟨front, back, rfl, rfl | rfl | rfl, hback⟩ := h
      · rw [List.nil_append, start_map_text hback, inner_map_text hback, List.nil_append]
      · have hne : back ≠ [] := by
          rintro rfl
          exact hroot rfl
        rw [List.map_append, inner_append, inner_map_text hback]
        simp [start, hne, Component.text, inner]
      · rw [List.map_append, inner_append, inner_map_text hback]
        simp [start, Component.text, inner]

end Lawful

end Path

namespace Location

variable {text : String} {location : Location}

theorem ofText?_of_concat {above : Path} {name : String}
    (h : Path.ofText text = above ++ [.normal name]) :
    ofText? text = some ⟨if above = [] then [.here] else above, name⟩ := by
  rw [ofText?, h, List.reverse_append, List.reverse_singleton, List.singleton_append]
  cases habove : above.reverse with
  | nil =>
      obtain rfl := List.reverse_eq_nil_iff.1 habove
      rfl
  | cons last front =>
      have hne : above ≠ [] := by
        rintro rfl
        cases habove
      have hback : (last :: front).reverse = above := by rw [← habove, List.reverse_reverse]
      rw [if_neg hne, ← hback]

/-- The place that a path names is read off its components. -/
theorem ofText?_eq_some_iff :
    ofText? text = some location ↔
      ∃ above, Path.ofText text = above ++ [.normal location.name] ∧
        location.directory = if above = [] then [.here] else above := by
  constructor
  · intro h
    rcases List.eq_nil_or_concat (Path.ofText text) with hnil | ⟨above, last, hpath⟩
    · simp [ofText?, hnil] at h
    · rw [List.concat_eq_append] at hpath
      cases last with
      | normal name =>
          obtain rfl := Option.some.inj ((ofText?_of_concat hpath).symm.trans h)
          exact ⟨above, hpath, rfl⟩
      | root | here | up => simp [ofText?, hpath] at h
  · rintro ⟨above, habove, hdirectory⟩
    rw [ofText?_of_concat habove, ← hdirectory]

/-- A place that a text is split into as joining asks for it: the name is the last component of
the text, the directory is what is written in front of it, and whatever text has the directory's
components, joining the name to it gives the path of the place, which comes apart in the same
way again. -/
structure Splits (location : Location) (text : String) : Prop where
  last : (Path.ofText text).getLast? = some (.normal location.name)
  proper : ProperName location.name
  directory_ne_nil : location.directory ≠ []
  path_eq : location.path =
    if (Path.ofText text).length = 1 then .here :: Path.ofText text else Path.ofText text
  written : ∃ folder rest, text = folder ++ location.name ++ rest ∧
    location.directory = if Path.ofText folder = [] then [.here] else Path.ofText folder
  read_back : Path.ofText location.directory.toText = location.directory
  joined : ∀ folder, Path.ofText folder = location.directory →
    Path.ofText (Path.joined folder location.name) = location.path ∧
      ofText? (Path.joined folder location.name) = some location

theorem Splits.of_eq_some (h : ofText? text = some location) : location.Splits text := by
  obtain ⟨above, habove, hdirectory⟩ := ofText?_eq_some_iff.1 h
  have hlast : (Path.ofText text).getLast? = some (.normal location.name) := by
    rw [habove, List.getLast?_concat]
  obtain ⟨proper, folder, rest, htext, hfolder⟩ := Path.exists_folder hlast
  obtain rfl : above = Path.ofText folder :=
    (List.append_inj' (habove.symm.trans hfolder) rfl).1
  have hne : location.directory ≠ [] := by
    rw [hdirectory]
    split
    · exact List.cons_ne_nil _ _
    · assumption
  have hlawful : location.directory.Lawful := by
    rw [hdirectory]
    split
    · exact ⟨[.here], [], rfl, .inr (.inr rfl), nofun⟩
    · exact Path.ofText_lawful folder
  refine ⟨hlast, proper, hne, ?_, ⟨folder, rest, htext, hdirectory⟩, hlawful.ofText_toText, ?_⟩
  · rw [Location.path, hdirectory, hfolder]
    by_cases hnil : Path.ofText folder = []
    · simp [hnil]
    · simp [hnil]
  · intro again hagain
    have hfull : again ≠ "" := by
      rintro rfl
      exact hne (hagain.symm.trans Path.ofText_empty)
    have hjoined := Path.ofText_joined hfull proper
    rw [hagain] at hjoined
    exact ⟨hjoined, ofText?_eq_some_iff.2 ⟨location.directory, hjoined, (if_neg hne).symm⟩⟩

/-- A path is split exactly if its last component is a name, and splitting undoes joining then.
A path that is not split is reported as it is written. -/
theorem split_undoes_join (text : String) :
    ((∃ location, ofText? text = some location) ↔
        ∃ last, (Path.ofText text).getLast? = some last ∧
          last ≠ .root ∧ last ≠ .here ∧ last ≠ .up) ∧
      (∀ location, ofText? text = some location → location.Splits text) ∧
      (ofText? text = none → ∀ environment : Environment, environment.file = some text →
        ∀ {Tree : Type} (backend : Backend Tree) (tree : Tree),
          environment.openFile backend tree = (.error (.invalidPath text), tree)) := by
  refine ⟨⟨?_, ?_⟩, fun _ => .of_eq_some, ?_⟩
  · rintro ⟨location, hsome⟩
    obtain ⟨above, habove, -⟩ := ofText?_eq_some_iff.1 hsome
    exact ⟨.normal location.name, by rw [habove, List.getLast?_concat], nofun, nofun, nofun⟩
  · rintro ⟨last, hlast, hroot, hhere, hup⟩
    cases last with
    | normal name =>
        obtain ⟨above, habove⟩ := List.getLast?_eq_some_iff.1 hlast
        exact ⟨_, ofText?_of_concat habove⟩
    | root => exact absurd rfl hroot
    | here => exact absurd rfl hhere
    | up => exact absurd rfl hup
  · intro hnone environment hfile Tree backend tree
    rw [Environment.openFile, hfile]
    simp only [hnone]

example : ofText? "/var//log/./tracee.log/" =
    some ⟨[.root, .normal "var", .normal "log"], "tracee.log"⟩ := by
  rw [ofText?, Path.ofText_eq]
  rfl

example : ofText? "tracee.log/.." = none := by
  rw [ofText?, Path.ofText_eq]
  rfl

end Location

end Log
end HeapFixtures
