import ClassScribe.Files.Change

/-! # Orders of entries

A directory lists its entries in any order. Two trees that differ in the order of entries only, in any of
their directories, are listings of the same files. -/

namespace ClassScribe.FileTree

/-- No directory has two entries of one name. -/
inductive NamesDiffer : FileTree → Prop
  | file (content : Option String) : NamesDiffer (.file content)
  | directory {entries : List (String × FileTree)} : (entries.map (·.1)).Nodup →
      (∀ entry ∈ entries, NamesDiffer entry.2) → NamesDiffer (.directory entries)

/-- The same tree, with the entries of its directories in other orders. -/
inductive Relisted : FileTree → FileTree → Prop
  | refl (t : FileTree) : Relisted t t
  | order {entries others : List (String × FileTree)} : entries.Perm others →
      Relisted (.directory entries) (.directory others)
  | inside {t u : FileTree} (before : List (String × FileTree)) (name : String)
      (after : List (String × FileTree)) : Relisted t u →
      Relisted (.directory (before ++ (name, t) :: after)) (.directory (before ++ (name, u) :: after))
  | trans {t u v : FileTree} : Relisted t u → Relisted u v → Relisted t v

end ClassScribe.FileTree
