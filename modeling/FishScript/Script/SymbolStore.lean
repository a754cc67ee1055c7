import FishScript.Script.Symbols

/-!
# A store for symbols

The store holds the symbols of the text that was analyzed last. They are replaced as a
whole, so functions and variables always stem from one text. Copies that were kept
earlier do not change.

## Main definitions

- `SymbolStore` — the current symbols and the copies that were kept
- `SymbolStore.replace`, `SymbolStore.keep` — what can be done with it
- `SymbolStore.isCurrent` — which copies equal the current symbols
-/

namespace FishScript

/-- The current symbols, and copies of earlier ones in the order in which they were
kept. -/
structure SymbolStore where
  current : Symbols
  kept : List Symbols
deriving DecidableEq

namespace SymbolStore

/-- A store that holds the given symbols and no copies. -/
def ofSymbols (symbols : Symbols) : SymbolStore where
  current := symbols
  kept := []

/-- Puts new symbols in place of the current ones. -/
def replace (store : SymbolStore) (symbols : Symbols) : SymbolStore :=
  { store with current := symbols }

def keep (store : SymbolStore) : SymbolStore :=
  { store with kept := store.kept ++ [store.current] }

/-- For each copy whether it equals the current symbols. -/
def isCurrent (store : SymbolStore) : List Bool :=
  store.kept.map (· == store.current)

end SymbolStore

end FishScript
