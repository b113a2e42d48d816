import BlockPlayer.Vocabulary

/-!
# Chains of blocks

Editors hold their blocks in structures of their own. All that is asked of them is a handle on one
block that tells its kind and its id and leads to the block behind it. A chain need not end: the
handles may lead in a circle, or on for ever.
-/

namespace BlockPlayer

/-- A handle on one block of a chain. -/
class ChainNode (ν : Type) where
  kind : ν → BlockKind
  /-- Blocks with the same id count as the same block. -/
  id : ν → BlockId
  /-- The block behind this one, if there is one. -/
  next : ν → Option ν

end BlockPlayer
