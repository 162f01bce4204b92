import VarLint.Text.Bytes

/-!
# The configuration template

The configuration file that a project starts with.
-/

namespace VarLint.CommandLine

/-- The configuration with which a project starts: every setting with its default, and a rule for
colours. -/
def configTemplate : Bytes :=
  "# cssvars configuration
# Docs: https://github.com/yacobolo/cssvars

# Shared settings
verbose: false

# Rule settings (patterns are written as /pattern/flags)
rule:
  properties: \"/^color|border|background|fill|stroke|box-shadow/\"
  exception-values: \"/^(transparent|none|inherit|currentColor|0)$/\"
  severity: error          # error | warning

# Linting settings
lint:
  paths:
    - \"**/*.\x7bcss,scss,less\x7d\"
  strict: false
  threshold: 0.0
  output-format: issues    # issues | summary | full | json | markdown
  max-issues-per-linter: 0 # 0 = unlimited
  max-same-issues: 0       # 0 = unlimited
  print-lines: true
  print-linter-name: true
  concurrency: 0           # 0 = number of CPUs
  watch: false
  cache-size: 0            # parsed files kept between watch runs, 0 = default
"

end VarLint.CommandLine
