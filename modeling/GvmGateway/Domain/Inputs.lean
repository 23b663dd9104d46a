import GvmGateway.Domain.Error

/-!
# Inputs of the ports

The commands with which the application creates a task and updates tasks, scan configs, users,
groups, roles and agent groups. A `u32` is a natural number, and preferences are their pairs in
the order in which the map of the request yields them.
-/

namespace GvmGateway

/-- Target selector for a task create command. -/
inductive CreateTaskTarget where
  | classic (targetId scanConfigId scannerId : String)
  | agentGroup (agentGroupId scannerId : String)
  | ociImage (ociImageTargetId scannerId : String)
  | webApplication (webApplicationTargetId scannerId : String)
  | import
deriving DecidableEq, Repr

/-- Task create command. -/
structure CreateTaskInput where
  name : String
  comment : Option String
  target : CreateTaskTarget
  scheduleId : Option String
  alertIds : List String
  alterable : Option Bool
  hostsOrdering : Option String
  observers : List String
  schedulePeriods : Option ℕ
  preferences : List (String × String)
deriving DecidableEq, Repr

/-- Task update command. -/
structure ModifyTaskInput where
  name : Option String
  comment : Option String
  targetId : Option String
  scanConfigId : Option String
  scannerId : Option String
  scheduleId : Option String
  alertIds : Option (List String)
  alterable : Option Bool
  hostsOrdering : Option String
  observers : List String
  schedulePeriods : Option ℕ
  preferences : List (String × String)
deriving DecidableEq, Repr

/-- Scan config update command. -/
structure ModifyScanConfigInput where
  name : Option String
  comment : Option String
deriving DecidableEq, Repr

/-- User update command; `hosts` is a host restriction expression. -/
structure ModifyUserInput where
  name : Option String
  comment : Option String
  password : Option String
  hosts : Option String
  roleIds : Option (List String)
  authenticationType : Option String
deriving DecidableEq, Repr

/-- Group update command; members are gvmd usernames. -/
structure ModifyGroupInput where
  comment : Option String
  users : Option (List String)
deriving DecidableEq, Repr

/-- Role update command; members are gvmd usernames. -/
structure ModifyRoleInput where
  comment : Option String
  users : Option (List String)
deriving DecidableEq, Repr

/-- Agent group update command. -/
structure ModifyAgentGroupInput where
  schedulerCronTime : String
  name : Option String
  comment : Option String
  agentIds : Option (List String)
deriving DecidableEq, Repr

end GvmGateway
