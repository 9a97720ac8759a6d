import EscapeClause.Path

/-!
# Files

What a program may ask of the file system: what a path names (`Files`). A `FileTree` answers for a
working directory whose content is given; a path out of it leads to a directory of which nothing
is known.
-/

namespace EscapeClause

inductive FileNode
  | directory
  | file (bytes : ByteArray)

abbrev Files := Text → Option FileNode

/-- The text of a file in UTF-8, with every end of line made a line feed; `none` when the bytes are
no UTF-8. -/
def decodeFile (bytes : ByteArray) : Option Text :=
  (String.fromUTF8? bytes).map fun s => Text.unifyNewlines s.toList

/-- A text that was written in UTF-8 is read again, its ends of line changed. -/
theorem decodeFile_toUTF8 (t : Text) :
    decodeFile (String.ofList t).toUTF8 = some (Text.unifyNewlines t) := by
  have hvalid : String.fromUTF8? (String.ofList t).toUTF8 = some (String.ofList t) :=
    dif_pos (String.ofList t).isValidUTF8
  rw [decodeFile, hvalid, Option.map_some, String.toList_ofList]

/-- The content of a working directory: what was created in it under which parts, in order. -/
structure FileTree where
  nodes : List (List Text × FileNode)

namespace FileTree

/-- A place reached by walking along a path. -/
inductive Place
  /-- Below the working directory, or the working directory itself. -/
  | inside (parts : List Text)
  | outside

def ofList (created : List (Text × FileNode)) : FileTree :=
  ⟨created.map fun e => ((Path.ofText e.1).parts, e.2)⟩

/-- What stands at these parts: what was created there last, or a directory that something else
was created in. -/
def nodeAt? (tree : FileTree) (parts : List Text) : Option FileNode :=
  match tree.nodes.reverse.find? (·.1 == parts) with
  | some e => some e.2
  | none =>
    if parts = [] || tree.nodes.any (fun e => parts.isPrefixOf e.1) then some .directory else none

def Place.node? (tree : FileTree) : Place → Option FileNode
  | inside parts => tree.nodeAt? parts
  | outside => some .directory

/-- Walks one part further; only a directory can be walked through. -/
def Place.walk (tree : FileTree) (place : Place) (part : Text) : Option Place :=
  match place.node? tree with
  | some .directory =>
    if !Path.isPart part then some place
    else
      match place with
      | outside => if part = "..".toList then some outside else none
      | inside parts =>
        if part = "..".toList then some (if parts = [] then outside else inside parts.dropLast)
        else
          let below := parts ++ [part]
          (tree.nodeAt? below).map fun _ => inside below
  | _ => none

/-- What a path names, read part by part as it is written: a slash after a file leads nowhere. -/
def files (tree : FileTree) : Files := fun path =>
  if path = [] then none
  else
    let start := if path.head? = some '/' then Place.outside else .inside []
    ((Text.splitAt '/' path).foldlM (Place.walk tree) start).bind (Place.node? tree)

end FileTree

end EscapeClause
