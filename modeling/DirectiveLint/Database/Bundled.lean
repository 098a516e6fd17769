import DirectiveLint.Schema

/-!
# The bundled tables

The options of the batch scheduler and the kinds of values that they take, for use where no
tables are given.
-/

namespace DirectiveLint.Bundled

/-- A shape given by the name of a validator. -/
def named (name : String) : ValueShape := .validator name.toList

/-- A shape of one text. -/
def text (t : String) : ValueShape := .literal t.toList

/-- A list with commas between its elements. -/
def separated (element : ValueShape) : ValueShape := .list element defaultDelimiter

/-- A flag with a long name and perhaps a short one. -/
def flag (long : String) (short : Option String) (description : String) (shape : ValueShape) :
    Flag where
  long := some long.toList
  short := short.map String.toList
  description := some description.toList
  shape := shape

/-- The rule for a validator given by a pattern. -/
def pattern (name written description : String) : Text × ValidatorSpec :=
  (name.toList, .rule ⟨some written.toList, none, some description.toList⟩)

/-- The rule for a validator given by a builtin kind. -/
def builtin (name kind description : String) : Text × ValidatorSpec :=
  (name.toList, .rule ⟨none, some kind.toList, some description.toList⟩)

/-- The options of the batch scheduler. -/
def flags : List Flag :=
  [
    flag "account" (some "A") "Charge resources to this account" (named "word"),
    flag "array" (some "a") "Submit a job array" (named "array_spec"),
    flag "begin" (some "b") "Defer allocation until the given time"
      (.anyOf [text "now", text "today", text "tomorrow", text "midnight", text "noon", text
        "teatime", named "datetime", named "delay"]),
    flag "chdir" (some "D") "Working directory of the batch script" (named "string"),
    flag "clusters" (some "M") "Clusters to submit to" (separated (named "word")),
    flag "comment" none "Arbitrary comment" (named "string"),
    flag "constraint" (some "C") "Required node features" (named "and_or_word_list"),
    flag "contiguous" none "Allocate contiguous nodes" .empty,
    flag "core-spec" (some "S") "Specialized cores per node" (named "integer"),
    flag "cores-per-socket" none "Minimum cores per socket" (named "integer"),
    flag "cpus-per-gpu" none "CPUs per allocated GPU" (named "integer"),
    flag "cpus-per-task" (some "c") "CPUs per task" (named "integer"),
    flag "deadline" none "Remove the job if it cannot finish before this time"
      (.anyOf [named "datetime", named "delay"]),
    flag "delay-boot" none "Delay node reboot" (named "time_limit"),
    flag "dependency" (some "d") "Defer until dependencies are satisfied"
      (.anyOf [separated (named "dependency"), .list (named "dependency") '?']),
    flag "error" (some "e") "File for standard error" (named "string"),
    flag "exclude" (some "x") "Nodes to exclude" (named "hostlist"),
    flag "exclusive" none "Do not share allocated nodes"
      (.anyOf [.empty, .oneOf [text "user", text "mcs", text "topo"]]),
    flag "export" none "Environment variables to propagate"
      (.anyOf [.oneOf [text "ALL", text "NONE"], separated (.anyOf [text "ALL", text "NONE",
        named "env_var"])]),
    flag "export-file" none "File of environment variables to export" (named "string"),
    flag "gid" none "Submit with this group" (named "word"),
    flag "gpus" (some "G") "Total GPUs for the job" (named "gpu_spec"),
    flag "gpus-per-node" none "GPUs per node" (named "gpu_spec"),
    flag "gpus-per-task" none "GPUs per task" (named "gpu_spec"),
    flag "gres" none "Generic resources per node" (separated (named "gres")),
    flag "gres-flags" none "Generic resource task binding"
      (.oneOf [text "disable-binding", text "enforce-binding"]),
    flag "hold" (some "H") "Submit in a held state" .empty,
    flag "ignore-pbs" none "Ignore #PBS directives" .empty,
    flag "input" (some "i") "File for standard input" (named "string"),
    flag "job-name" (some "J") "Name of the job" (named "string"),
    flag "kill-on-invalid-dep" none "Terminate if dependencies can never be satisfied"
      (.oneOf [text "yes", text "no"]),
    flag "licenses" (some "L") "Licenses required" (separated (named "license")),
    flag "mail-type" none "Events that trigger mail"
      (separated (.oneOf [text "NONE", text "BEGIN", text "END", text "FAIL", text "REQUEUE",
        text "ALL", text "INVALID_DEPEND", text "STAGE_OUT", text "TIME_LIMIT", text
        "TIME_LIMIT_90", text "TIME_LIMIT_80", text "TIME_LIMIT_50", text "ARRAY_TASKS"])),
    flag "mail-user" none "Mail recipients" (separated (named "email")),
    flag "mem" none "Memory per node" (named "memory"),
    flag "mem-per-cpu" none "Memory per CPU" (named "memory"),
    flag "mem-per-gpu" none "Memory per GPU" (named "memory"),
    flag "mincpus" none "Minimum CPUs per node" (named "integer"),
    flag "nice" none "Scheduling priority adjustment" (.anyOf [.empty, named "signed_integer"]),
    flag "no-kill" (some "k") "Do not kill the job when a node fails"
      (.anyOf [.empty, text "off"]),
    flag "no-requeue" none "Never requeue the job" .empty,
    flag "nodefile" (some "F") "File listing nodes" (named "string"),
    flag "nodelist" (some "w") "Nodes to allocate" (named "hostlist"),
    flag "nodes" (some "N") "Number of nodes" (named "node_range"),
    flag "ntasks" (some "n") "Number of tasks" (named "integer"),
    flag "ntasks-per-core" none "Tasks per core" (named "integer"),
    flag "ntasks-per-gpu" none "Tasks per GPU" (named "integer"),
    flag "ntasks-per-node" none "Tasks per node" (named "integer"),
    flag "open-mode" none "Mode for output and error files"
      (.oneOf [text "append", text "truncate"]),
    flag "output" (some "o") "File for standard output" (named "string"),
    flag "overcommit" (some "O") "Overcommit resources" .empty,
    flag "oversubscribe" (some "s") "Share nodes with other jobs" .empty,
    flag "parsable" none "Print only the job id" .empty,
    flag "partition" (some "p") "Partitions to submit to" (separated (named "word")),
    flag "priority" none "Requested job priority" (.anyOf [text "TOP", named "integer"]),
    flag "qos" (some "q") "Quality of service" (named "word"),
    flag "quiet" (some "Q") "Suppress informational messages" .empty,
    flag "reboot" none "Reboot nodes before starting" .empty,
    flag "requeue" none "Allow the job to be requeued" .empty,
    flag "reservation" none "Reservations to use" (separated (named "word")),
    flag "signal" none "Signal to send before the time limit" (named "signal"),
    flag "sockets-per-node" none "Minimum sockets per node" (named "integer"),
    flag "spread-job" none "Spread the job over as many nodes as possible" .empty,
    flag "test-only" none "Validate and estimate start time only" .empty,
    flag "thread-spec" none "Specialized threads per node" (named "integer"),
    flag "threads-per-core" none "Threads per core" (named "integer"),
    flag "time" (some "t") "Limit on total run time" (named "time_limit"),
    flag "time-min" none "Minimum time limit" (named "time_limit"),
    flag "tmp" none "Minimum temporary disk space" (named "memory"),
    flag "uid" none "Submit as this user" (named "word"),
    flag "use-min-nodes" none "Prefer the smaller node count of a range" .empty,
    flag "verbose" (some "v") "Increase verbosity" .empty,
    flag "wait" (some "W") "Wait for the job to finish" .empty,
    flag "wckey" none "Workload characterization key" (named "word")
  ]

/-- The kinds of values that the options take. -/
def validators : ValidatorTable :=
  .ofList
  [
    pattern "integer" "[0-9]+" "non-negative integer",
    pattern "signed_integer" "[+-]?[0-9]+" "integer",
    pattern "word" "[A-Za-z0-9_.+-]+" "name",
    pattern "memory" "[0-9]+[KMGTkmgt]?" "memory size (e.g. 500M, 16G)",
    pattern "node_range" "[0-9]+(-[0-9]+)?" "node count or min-max range",
    pattern "hostlist"
      ("[A-Za-z0-9_.-]+(\\[[0-9,-]+\\][A-Za-z0-9_.-]*)?"
        ++ "(,[A-Za-z0-9_.-]+(\\[[0-9,-]+\\][A-Za-z0-9_.-]*)?)*")
      "host list (e.g. node01,gpu[01-04])",
    pattern "email" "[^@\\s,]+@[^@\\s,]+" "email address",
    pattern "env_var" "[A-Za-z_][A-Za-z0-9_]*(=[^,]*)?" "NAME or NAME=value",
    pattern "dependency"
      ("(after|afterany|afterok|afternotok|aftercorr|afterburstbuffer)(:[0-9]+(\\+[0-9]+)?)+"
        ++ "|singleton|expand:[0-9]+")
      "dependency (e.g. afterok:1234)",
    pattern "array_spec"
      "[0-9]+(-[0-9]+(:[0-9]+)?)?(,[0-9]+(-[0-9]+(:[0-9]+)?)?)*(%[0-9]+)?"
      "array index spec (e.g. 0-15%4)",
    pattern "gres"
      "[A-Za-z0-9_]+(:[A-Za-z0-9_.-]+)?(:[0-9]+[KMGT]?)?"
      "generic resource (name[:type][:count])",
    pattern "gpu_spec" "([A-Za-z0-9_.-]+:)?[0-9]+" "GPU count ([type:]count)",
    pattern "signal" "([RB]\x7b1,2\x7d:)?[A-Z0-9]+(@[0-9]+)?" "[\x7bR|B\x7d:]sig_num[@sig_time]",
    pattern "and_or_word_list"
      "\\w+(\\*[0-9]+)?([&|,]\\w+(\\*[0-9]+)?)*"
      "feature expression (e.g. intel&ib)",
    pattern "license" "[A-Za-z0-9_.-]+(@[A-Za-z0-9_.-]+)?([:*][0-9]+)?" "license[@db][:count]",
    builtin "time_limit" "duration"
      "time limit ([days-]hours:minutes:seconds, minutes, or UNLIMITED)"
  ]

/-- The schema of the bundled tables. -/
def schema : Except SchemaError Schema :=
  match Registry.ofTable validators with
  | .ok registry => Schema.ofFlags flags registry
  | .error defect => .error defect

end DirectiveLint.Bundled
