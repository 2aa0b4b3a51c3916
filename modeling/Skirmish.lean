import Skirmish.Engine.SavedSettings
import Skirmish.Main
import Skirmish.Proofs.Dice.Drawn
import Skirmish.Proofs.Volley.Phases
import Skirmish.Proofs.Combat.Attack
import Skirmish.Proofs.Rulebook.Keywords
import Skirmish.Proofs.Volley.Tallies
import Skirmish.Proofs.Combat.Balance
import Skirmish.Proofs.Combat.Faces
import Skirmish.Proofs.Combat.Judgement
import Skirmish.Proofs.Combat.Effects
import Skirmish.Proofs.Combat.Completion
import Skirmish.Proofs.Combat.Growth
import Skirmish.Proofs.Rulebook.Parts
import Skirmish.Proofs.Rulebook.Bounds
import Skirmish.Proofs.Combat.Steps
import Skirmish.Proofs.Combat.Writings
import Skirmish.Proofs.Combat.Tracing
import Skirmish.Proofs.Combat.Numbers
import Skirmish.Proofs.Combat.Roles
import Skirmish.Proofs.Combat.Totals
import Skirmish.Proofs.Combat.Blind
import Skirmish.Proofs.Combat.Order
import Skirmish.Proofs.Dice.Rollable
import Skirmish.Proofs.Dice.Foreign
import Skirmish.Proofs.Content.DiceCheck
import Skirmish.Proofs.Content.Records
import Skirmish.Proofs.Content.Agreement
import Skirmish.Proofs.Ledger.Changes
import Skirmish.Proofs.Combat.Isolation
import Skirmish.Proofs.Combat.Untraced
import Skirmish.Proofs.ReadBack.Conditions
import Skirmish.Proofs.ReadBack.Effects
import Skirmish.Proofs.ReadBack.Records
import Skirmish.Proofs.ReadBack.Rules
import Skirmish.Proofs.Volley.Ranges
import Skirmish.Proofs.Combat.Written
import Skirmish.Proofs.Combat.Ranges
import Skirmish.Proofs.Combat.Reports
import Skirmish.Proofs.Content.Idle
import Skirmish.Proofs.Content.Warnings
import Skirmish.Proofs.Rulebook.Ordinary
import Skirmish.Proofs.Schema.Stopping
import Skirmish.Proofs.Content.Endings
import Skirmish.Proofs.Volley.Monotone
import Skirmish.Proofs.Combat.Characteristics
import Skirmish.Proofs.Ledger.Folding
import Skirmish.Proofs.Combat.Saves
import Skirmish.Proofs.Stops
import Skirmish.Proofs.Dice.Grammar
import Skirmish.Proofs.Dice.Drawing
import Skirmish.Proofs.Dice.Range
import Skirmish.Proofs.Dice.Fallback
import Skirmish.Proofs.Ledger.Restoring
import Skirmish.Proofs.Combat.Reachable
import Skirmish.Proofs.Volley.EachDie
import Skirmish.Proofs.Combat.Grants
import Skirmish.Proofs.PlainText
import Skirmish.Proofs.Rulebook.Display
import Skirmish.Proofs.Combat.PrintedGrants
import Skirmish.Proofs.Volley.Ranks
import Skirmish.Proofs.Volley.DamageRolls
import Skirmish.Proofs.Binary64
import Skirmish.Proofs.Dice.Exact
import Skirmish.Proofs.Dice.Outcomes
import Skirmish.Proofs.Dice.Mean
import Skirmish.Proofs.Combat.Choosing
import Skirmish.Proofs.Army.Pending
import Skirmish.Proofs.Stratagem.Drawer
import Skirmish.Proofs.Stratagem.Names
import Skirmish.Proofs.Army.Reminders
import Skirmish.Proofs.Army.Liveness
import Skirmish.Proofs.Engine.SideRules
import Skirmish.Proofs.CommandLine.OpenChoices
import Skirmish.Proofs.Text.Words
import Skirmish.Proofs.Rulebook.Printed
import Skirmish.Proofs.Rulebook.Merging
