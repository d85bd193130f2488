import SourceAudit.Rule.Callee
import SourceAudit.Rule.Credential

/-! Commands put together from untrusted input. -/
namespace SourceAudit.CommandInjection

/-- Calls that start a process. -/
def shellSinks : List String :=
  ["exec.Command", "exec.CommandContext", "syscall.Exec", "os.system", "os.popen", "os.spawnl",
    "os.execl", "subprocess.call", "subprocess.run", "subprocess.Popen", "subprocess.check_call",
    "subprocess.check_output", "subprocess.getoutput", "subprocess.getstatusoutput",
    "commands.getoutput", "Command.new", "child_process.exec", "child_process.execSync",
    "child_process.spawn", "child_process.execFile", "exec", "execSync", "execFile", "spawn",
    "spawnSync", "Runtime.getRuntime", "ProcessBuilder", "shell_exec", "system", "passthru",
    "proc_open", "popen", "IO.popen", "Open3.capture2", "Open3.capture3", "Open3.popen3",
    "Kernel.system", "execl", "execlp", "execvp"]

/-- Calls that start a shell when told to by a flag. -/
def shellFlagSinks : List String :=
  ["subprocess.call", "subprocess.run", "subprocess.Popen", "subprocess.check_call",
    "subprocess.check_output", "child_process.spawn", "child_process.execFile", "spawn", "spawnSync",
    "execFile"]

def shellTrue : Pattern := .ofText "(?i)\\bshell\\s*[:=]\\s*true\\b"

def shellConcat (w : Window) : Option Hit :=
  (w.head.find? fun f => f.isSink shellSinks && f.args.any Expr.splices).map Hit.of

def shellFlag (w : Window) : Option Hit :=
  (w.head.find? fun f =>
    f.isSink shellFlagSinks && (f.args.any fun a => shellTrue.isMatch (w.textOf a.span)) &&
      f.positional.head?.any Expr.isDynamic).map fun f =>
    (Hit.of f).withMessage "Subprocess spawned with shell=True on a non-literal command"

def builtThenExecuted (w : Window) : Option Hit :=
  builtThenUsed w Expr.splices (·.isSink shellSinks)

def remediation : String :=
  "Pass the program and its arguments as separate values without a shell, and validate untrusted " ++
    "input against an allow-list."

def rules : List Rule :=
  [{ id := "cmd_shell_concat"
     category := .commandInjection
     severity := .high
     description := "Shell command built from untrusted input"
     remediation
     kinds := { call := true }
     matcher := shellConcat },
   { id := "cmd_shell_flag"
     category := .commandInjection
     severity := .high
     description := "Subprocess started through a shell with a non-literal command"
     remediation
     kinds := { call := true }
     matcher := shellFlag },
   { id := "cmd_built_then_executed"
     category := .commandInjection
     severity := .high
     description := "Command string built from untrusted input is executed"
     remediation
     kinds := { assignment := true }
     matcher := builtThenExecuted }]

end SourceAudit.CommandInjection
