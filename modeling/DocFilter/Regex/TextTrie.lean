/-!
# Tries of texts

A choice among texts shares their beginnings: the texts form a tree, in which every path from the
root spells a text. Texts that come earlier in the choice are preferred to later ones; so where a
text ends, the branches that were there before are closed, and later texts get new ones.
-/

namespace DocFilter.Regex

/-- A node of a trie. -/
structure TrieNode where
  /-- How many branches each of the closed groups has. -/
  closed : List Nat
  /-- The branches that later texts can share, with the node that each leads to. -/
  openBranches : List (Nat × Nat)
  deriving Repr, Inhabited

namespace TrieNode

/-- A node without branches. -/
def leaf : TrieNode := ⟨[], []⟩

/-- How many branches each group has. -/
def groups (n : TrieNode) : List Nat :=
  n.closed ++ [n.openBranches.length]

/-- Whether no branch leaves the node. -/
def isLeaf (n : TrieNode) : Bool :=
  n.groups.all (· == 0)

/-- Closes the branches at a node where a text ends. -/
def close (n : TrieNode) : TrieNode :=
  if n.isLeaf && !n.closed.isEmpty then n else ⟨n.groups, []⟩

end TrieNode

/-- A trie: its nodes, the first one being the root. -/
abbrev TextTrie := Array TrieNode

namespace TextTrie

/-- The trie of no texts. -/
def empty : TextTrie := #[.leaf]

/-- Adds a text, given by its bytes, below node `n`. -/
def addBelow (n : Nat) : List Nat → TextTrie → TextTrie
  | [], trie => trie.modify n TrieNode.close
  | byte :: text, trie =>
    match trie[n]?.bind fun node => node.openBranches.lookup byte with
    | some child => addBelow child text trie
    | none =>
      let child := trie.size
      let branch (node : TrieNode) : TrieNode :=
        { node with openBranches := (byte, child) :: node.openBranches }
      addBelow child text ((trie.modify n branch).push .leaf)

/-- The trie of some texts. -/
def ofTexts (texts : List (List Nat)) : TextTrie :=
  texts.foldl (fun trie text => addBelow 0 text trie) empty

end TextTrie

end DocFilter.Regex
