import ShaderLiterals.Files.Fault
import ShaderLiterals.Files.Path
import ShaderLiterals.Files.Tree

/-!
# Following names and links through a tree
-/

namespace ShaderLiterals.Files

/-- How many links may be followed on one way. -/
def maxLinks : Nat := 40

/-- Where a path starts, for someone who stands at `here`. -/
def Path.origin (path : Path) (here : Location) : Location :=
  if path.isAbsolute then [] else here

namespace Tree

/-- The location that names lead to from `here`, following at most `links` links. -/
def follow (tree : Tree) (links : Nat) (here : Location) : List String → Except Fault Location
  | [] => .ok here
  | name :: rest =>
      match tree.get? here with
      | none => .error .notFound
      | some .directory =>
          if name = "." then tree.follow links here rest
          else if name = ".." then tree.follow links here.dropLast rest
          else if Path.maxNameBytes < name.utf8ByteSize then .error .nameTooLong
          else
            match tree.get? (here ++ [name]) with
            | none => .error .notFound
            | some (.link target) =>
                match links with
                | 0 => .error .tooManyLinks
                | links + 1 =>
                    let path := Path.ofText target
                    tree.follow links (path.origin here) (path.names ++ rest)
            | some _ => tree.follow links (here ++ [name]) rest
      | some _ => .error .notDirectory
termination_by names => (links, names.length)

/-- Where new content for the last of the names goes: to what is there already, at the end of links
if need be, or to a new place in a directory. -/
def target (tree : Tree) : (links : Nat) → (here : Location) → List String → Except Fault Location
  | links, here, names =>
      match names.getLast? with
      | none | some "." | some ".." => .error .isDirectory
      | some last =>
          match tree.follow links here names.dropLast with
          | .error fault => .error fault
          | .ok parent =>
              match tree.get? parent with
              | none => .error .notFound
              | some .directory =>
                  if Path.maxNameBytes < last.utf8ByteSize then .error .nameTooLong
                  else
                    match tree.get? (parent ++ [last]) with
                    | some .directory => .error .isDirectory
                    | some (.link text) =>
                        match links with
                        | 0 => .error .tooManyLinks
                        | links + 1 =>
                            let path := Path.ofText text
                            tree.target links (path.origin parent) path.names
                    | none | some _ => .ok (parent ++ [last])
              | some _ => .error .notDirectory

/-- Makes the directories that some names ask for and that are missing.  Whatever else has such a
name is in the way, a link that leads nowhere too. -/
def makeDirectories (tree : Tree) (here : Location) : List String → Except Fault (Location × Tree)
  | [] => .ok (here, tree)
  | name :: rest =>
      if name = "." then tree.makeDirectories here rest
      else
        match tree.follow maxLinks here [name] with
        | .ok next =>
            if tree.get? next = some .directory then tree.makeDirectories next rest
            else .error (if rest.isEmpty then .alreadyThere else .notDirectory)
        | .error .notFound =>
            if (tree.get? (here ++ [name])).isSome then .error .alreadyThere
            else (tree.insert (here ++ [name]) .directory).makeDirectories (here ++ [name]) rest
        | .error fault => .error fault

end Tree

end ShaderLiterals.Files
