import TableScript.Pattern.Footprint.Basic

set_option autoImplicit false

namespace TableScript.WordTree

/-- What is left of the words that come between two words that end at a node, the last first. -/
abbrev Stretch := List (List Nat)

/-- Divides what is left of the words into stretches, the last first. `current` is the unfinished stretch.
A word that ends again where nothing goes on divides nothing. -/
def stretches (done : List Stretch) (current : Stretch) : List (List Nat) → List Stretch
  | [] => current :: done
  | [] :: rest =>
    if current.isEmpty && !done.isEmpty && done.all List.isEmpty then stretches done [] rest
    else stretches (current :: done) [] rest
  | word :: rest => stretches done (word :: current) rest

def heads (stretch : Stretch) : List Nat := (stretch.filterMap List.head?).eraseDups

/-- What is left, in order, of the words of a stretch that go on with a byte. -/
def after (stretch : Stretch) (byte : Nat) : List (List Nat) :=
  stretch.foldl
    (fun tails word =>
      match word with
      | [] => tails
      | first :: tail => if first = byte then tail :: tails else tails)
    []

/-- The states of a node: one for each stretch that goes on, and a fork between these and the words that end
here. -/
def nodeLayout (parts : List Stretch) : Footprint :=
  let counts := parts.filterMap fun part => if part.isEmpty then none else some (heads part).length
  counts.foldl
    (fun soFar count => soFar.add (if count = 1 then Footprint.state else Footprint.reader count))
    (Footprint.nothing.add (Footprint.fork (counts.length + (parts.length - 1))))

/-- Lays out the nodes that are waiting. Every node but the first is reached by a byte of its own, so `fuel`
need not exceed the number of bytes of all words. Nothing is laid out where no word goes on. -/
def layoutFrom : Nat → List (List (List Nat)) → Footprint → Footprint
  | 0, _, soFar => soFar
  | _, [], soFar => soFar
  | fuel + 1, node :: waiting, soFar =>
    let parts := stretches [] [] node
    if parts.all List.isEmpty then layoutFrom fuel waiting soFar
    else
      let below := parts.flatMap fun part => (heads part).map (after part)
      layoutFrom fuel (below ++ waiting) (soFar.append (nodeLayout parts))

/-- The states of a choice between the words, with one where all of them end. -/
def layout (words : List (List Nat)) : Footprint :=
  let fuel := words.foldl (fun total word => total + word.length) 1
  layoutFrom fuel [words] (Footprint.nothing.add Footprint.state)

end TableScript.WordTree
