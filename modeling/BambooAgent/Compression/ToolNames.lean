import BambooAgent.Compression.Texts

/- Canonical tool names, and the two Skill tools whose history is protected. -/
namespace Compression

def builtinToolNames : List String :=
  ["Bash", "BashInput", "BashOutput", "exec_command", "write_stdin", "Edit", "ExitPlanMode",
    "GetFileInfo", "Glob", "Grep", "KillShell", "session_note", "Read", "request_permissions",
    "Sleep", "Task", "update_goal", "loop_control", "ViewImage", "WebFetch", "Workspace", "Write"]

def serverCapabilityNames : List String :=
  ["Plan", "SubAgent", "Project", "archive_context", "ask_agent", "browser", "browser_eval",
    "cluster", "compact_context", "deploy_agent", "ledger", "load_skill", "memory", "notify",
    "read_skill_resource", "scheduler", "session_control", "session_history",
    "session_history_current", "session_message", "workflow_run", "work_overview",
    "work_search", "work_inspect", "work_changes", "work_update", "work_dispatch",
    "work_review"]

def builtinToolAliases : List (String × String) :=
  [("apply_patch", "Edit"), ("FileExists", "GetFileInfo"), ("GetCurrentDir", "Workspace"),
    ("SetWorkspace", "Workspace"), ("memory_note", "session_note"),
    ("recall", "session_history"), ("session_inspector", "session_history"),
    ("schedule_tasks", "scheduler"), ("sub_session_manager", "SubAgent"),
    ("SubSession", "SubAgent")]

def legacyToolNameAliases : List (String × String) :=
  [("execute_command", "Bash"), ("file_exists", "FileExists"), ("fileExists", "FileExists"),
    ("get_current_dir", "GetCurrentDir"), ("getCurrentDir", "GetCurrentDir"),
    ("get_file_info", "GetFileInfo"), ("getFileInfo", "GetFileInfo"),
    ("list_directory", "Glob"), ("memory_note", "memory_note"), ("read_file", "Read"),
    ("set_workspace", "SetWorkspace"), ("setWorkspace", "SetWorkspace"), ("sleep", "Sleep"),
    ("applyPatch", "apply_patch"), ("spawn_session", "SubAgent"), ("spawnSession", "SubAgent"),
    ("sub_session", "SubAgent"), ("subSession", "SubAgent"), ("sub_task", "SubAgent"),
    ("subTask", "SubAgent"), ("team_agent", "SubAgent"), ("teamAgent", "SubAgent"),
    ("child_session", "SubAgent"), ("childSession", "SubAgent"),
    ("sub_session_manager", "SubAgent"), ("sub_agent", "SubAgent"), ("subAgent", "SubAgent"),
    ("SubSession", "SubAgent"), ("subsession", "SubAgent"), ("view_image", "ViewImage"),
    ("viewImage", "ViewImage"), ("write_file", "Write"),
    ("sessionInspector", "session_inspector"), ("scheduleTasks", "schedule_tasks")]

def eqIgnoreAsciiCase (a b : String) : Bool :=
  a.toList.map Char.toLower == b.toList.map Char.toLower

def normalizeBuiltinAlias (name : String) : String :=
  (legacyToolNameAliases.lookup name).getD name

def resolveAlias (name : String) : Option String :=
  (builtinToolAliases.find? (fun entry => eqIgnoreAsciiCase entry.1 name)).map (·.2)

/-- The part after the last `::`. -/
def unqualified (name : String) : String :=
  match (name.toList.tails.filter (fun rest => [':', ':'].isPrefixOf rest)).getLast? with
  | some rest => String.ofList (rest.drop 2)
  | none => name

def canonicalToolName (value : String) : String :=
  let trimmed := trim value
  if trimmed.isEmpty then ""
  else
    let normalized := normalizeBuiltinAlias (trim (unqualified trimmed))
    let canonical := (resolveAlias normalized).getD normalized
    ((builtinToolNames ++ serverCapabilityNames).find?
      (fun known => eqIgnoreAsciiCase known canonical)).getD canonical

inductive SkillNameMatch where
  | exact
  | canonical

def isSkillToolName (name : String) : SkillNameMatch → Bool
  | .exact => name == "load_skill" || name == "read_skill_resource"
  | .canonical =>
    canonicalToolName name == "load_skill" || canonicalToolName name == "read_skill_resource"

example : isSkillToolName "namespace:: LOAD_SKILL " .canonical = true := by decide

example : isSkillToolName "mcp__server__load_skill" .canonical = false := by decide

end Compression
