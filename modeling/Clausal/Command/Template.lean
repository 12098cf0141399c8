/-!
# The configuration to begin with
-/

namespace Clausal

/-- The text of a configuration that sets nothing but what holds anyway, with explanations. -/
def configTemplate : String := "# enforce configuration

[validator]
# How type phrases are compared: \"sensitive\" (default) or \"insensitive\"
phrase-case = \"sensitive\"

# Built-in clause rules, by name (see \x60enforce list-rules\x60)
# Each rule can be disabled and some take options

# \x60with up to N characters\x60 passes when length >= N by default.
# Set bound = \"at-most\" to pass when length <= N instead.
[rules.length-up-to]
enabled = true
bound = \"at-least\"

# [rules.matches]
# enabled = false

# Custom clause rules, tried after the built-ins in declared order.
# Each needs exactly one of: equals, one-of, matches

# [[patterns]]
# name = \"is-one\"
# pattern = \"^is one$\"
# ignore-case = true
# equals = 1

# [[patterns]]
# name = \"is-primary\"
# pattern = \"^is a primary colou?r$\"
# description = \"red, green or blue\"
# one-of = [\"red\", \"green\", \"blue\"]
"

end Clausal
