import LongSuffix.Store

/-!
# Hosts

A host is where a command runs: the files it works on, and how they are found.
-/

namespace LongSuffix

structure Host (m : Type → Type) where
  store : Store m
  /-- The files at and below a path, and the paths where looking for them failed. -/
  walk : Path → m (List (Except (Path × Fault) Path))

end LongSuffix
