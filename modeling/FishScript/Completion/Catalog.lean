import FishScript.Completion.Item

/-!
# The builtin catalog

The commands and keywords that are offered in every script, in the order in
which they are listed. The names of the script itself come after them.

## Main definitions

- `Catalog.entries` — labels, kinds and insert texts of the catalog
- `Catalog.items` — the items of the catalog
- `Symbols.completion` — everything that is offered for a script
-/

namespace FishScript

namespace Catalog

/-- The labels of the catalog, each with its kind and its insert text. -/
def entries : List (String × Item.Kind × String) :=
   [("echo", .function, "echo \"$\x7b1\x7d\""),
    ("function", .keyword, "function $1\n\t$0\nend"),
    ("set", .keyword, "set $1 $2 $3"),
    ("for", .keyword, "for $1 in $2\n\t$0\nend"),
    ("while", .keyword, "while $1\n\t$0\nend"),
    ("if", .keyword, "if $1\n\t$0\nend"),
    ("elif", .keyword, "elif $1\n\t$0\nend"),
    ("else", .keyword, "else\n\t$0\nend"),
    ("return", .keyword, "return $1"),
    ("exit", .keyword, "exit $1"),
    ("source", .keyword, "source $1"),
    ("cd", .keyword, "cd $1"),
    ("pwd", .keyword, "pwd"),
    ("ls", .keyword, "ls $1"),
    ("cat", .keyword, "cat $1"),
    ("rm", .keyword, "rm $1"),
    ("mv", .keyword, "mv $1 $2"),
    ("cp", .keyword, "cp $1 $2"),
    ("mkdir", .keyword, "mkdir $1"),
    ("rmdir", .keyword, "rmdir $1"),
    ("touch", .keyword, "touch $1"),
    ("chmod", .keyword, "chmod $1 $2"),
    ("chown", .keyword, "chown $1 $2"),
    ("chgrp", .keyword, "chgrp $1 $2"),
    ("ln", .keyword, "ln $1 $2"),
    ("grep", .keyword, "grep $1 $2"),
    ("sed", .keyword, "sed $1 $2"),
    ("awk", .keyword, "awk $1 $2"),
    ("cut", .keyword, "cut $1 $2"),
    ("sort", .keyword, "sort $1"),
    ("uniq", .keyword, "uniq $1"),
    ("wc", .keyword, "wc $1"),
    ("head", .keyword, "head $1"),
    ("tail", .keyword, "tail $1"),
    ("date", .keyword, "date"),
    ("sleep", .keyword, "sleep $1"),
    ("kill", .keyword, "kill $1"),
    ("ps", .keyword, "ps"),
    ("top", .keyword, "top"),
    ("free", .keyword, "free"),
    ("df", .keyword, "df"),
    ("du", .keyword, "du"),
    ("uname", .keyword, "uname"),
    ("uptime", .keyword, "uptime"),
    ("who", .keyword, "who"),
    ("w", .keyword, "w"),
    ("users", .keyword, "users"),
    ("groups", .keyword, "groups"),
    ("id", .keyword, "id"),
    ("whoami", .keyword, "whoami"),
    ("hostname", .keyword, "hostname"),
    ("ping", .keyword, "ping $1"),
    ("ss", .keyword, "ss"),
    ("test", .keyword, "test $1 $2 $3"),
    ("break", .keyword, "break"),
    ("continue", .keyword, "continue"),
    ("switch", .keyword, "switch $1\n\tcase $2\n\t\t$0\n\tbreak\nend"),
    ("case", .keyword, "case $1\n\t$0\nbreak"),
    ("builtin", .keyword, "builtin $1 $2"),
    ("time", .keyword, "time $1"),
    ("begin", .keyword, "begin\n\t$0\nend"),
    ("end", .keyword, "end"),
    ("set_color", .keyword, "set_color $1 $2"),
    ("read", .keyword, "read $1 $2"),
    ("string", .keyword, "string $1 $2"),
    ("math", .keyword, "math $1 $2"),
    ("argparse", .keyword, "argparse $1 $2"),
    ("count", .keyword, "count $1 $2"),
    ("type", .keyword, "type $1"),
    ("contains", .keyword, "contains $1 $2"),
    ("abbr", .keyword, "abbr $1 $2"),
    ("bind", .keyword, "bind $1 $2 $3"),
    ("complete", .keyword, "complete $1 $2 $3"),
    ("commandline", .keyword, "commandline $1 $2"),
    ("fish_config", .keyword, "fish_config $1 $2"),
    ("random", .keyword, "random $1 $2 $3"),
    ("argv", .variable, "argv[$1]")]

def items : List Item :=
  entries.map fun (label, kind, insertText) =>
    .ofInsertText (.ofString label) kind (.ofString insertText)

theorem length_items : items.length = 77 := by
  simp [items, entries]

end Catalog

/-- Everything that is offered for a script: the catalog, then its own names. -/
def Symbols.completion (symbols : Symbols) : List Item :=
  Catalog.items ++ symbols.items

end FishScript
