import SmwRecomp.Lib.CEnum
import SmwRecomp.Lib.BitList
import SmwRecomp.Lib.Buckets
import SmwRecomp.Lib.Ring
import SmwRecomp.Lib.Keyed
import SmwRecomp.Lib.Run
import SmwRecomp.Lib.Bytes
import SmwRecomp.Lib.Wire
import SmwRecomp.Lib.Table
import SmwRecomp.Coop.Types
import SmwRecomp.Coop.Session
import SmwRecomp.Coop.Emit
import SmwRecomp.Coop.Order
import SmwRecomp.Coop.Lives
import SmwRecomp.Coop.Fates
import SmwRecomp.Coop.State
import SmwRecomp.Coop.Valid
import SmwRecomp.Coop.Codec
import SmwRecomp.Coop.Snapshot
import SmwRecomp.Coop.Reach
import SmwRecomp.Coop.Machine
import SmwRecomp.Coop.Entities
import SmwRecomp.Coop.EntityRuns
import SmwRecomp.Coop.Guest
import SmwRecomp.Coop.FrameEnd
import SmwRecomp.Coop.Clear
import SmwRecomp.Coop.MachineState
import SmwRecomp.Coop.MachineImage
import SmwRecomp.Coop.MachineLoad
import SmwRecomp.Coop.MachineCodec
import SmwRecomp.Coop.Focus
import SmwRecomp.Coop.Resync
import SmwRecomp.Coop.Room
import SmwRecomp.Coop.RoomRuns
import SmwRecomp.Coop.RoomCarry
import SmwRecomp.Coop.RoomTransition
import SmwRecomp.Coop.Pause
import SmwRecomp.Sram.Queue
import SmwRecomp.Sram.QueueRuns
import SmwRecomp.Sram.Saves
import SmwRecomp.Coop.Runtime
import SmwRecomp.Coop.StagedLoad
import SmwRecomp.Lib.Overlay
import SmwRecomp.Ips.Appliers
import SmwRecomp.Ips.Create
import SmwRecomp.Ips.Scan
import SmwRecomp.Ips.RoundTrip
import SmwRecomp.Foreign.Controller
import SmwRecomp.Foreign.Snapshot
import SmwRecomp.Foreign.TraceRing
import SmwRecomp.Audio.ModAudio
import SmwRecomp.Audio.Pool
import SmwRecomp.Audio.CueWave
import SmwRecomp.Audio.Mix
import SmwRecomp.Audio.VoiceRuns
import SmwRecomp.Lib.Least
import SmwRecomp.Coop.Emissions
import SmwRecomp.Coop.Contest
import SmwRecomp.Coop.Hits
import SmwRecomp.Coop.Contacts
import SmwRecomp.Coop.Camera
import SmwRecomp.Coop.Separation
import SmwRecomp.Coop.Patience
import SmwRecomp.Renderer.Spawns
import SmwRecomp.Renderer.SpawnRuns
import SmwRecomp.Renderer.RasterCapture
import SmwRecomp.OwnerCache.Verify
import SmwRecomp.OwnerCache.Publish
import SmwRecomp.Lib.Scan
import SmwRecomp.Lib.Checked
import SmwRecomp.Coop.Input
import SmwRecomp.Coop.Ordered
import SmwRecomp.Coop.GuestFields
import SmwRecomp.Coop.Mouths
import SmwRecomp.Coop.Terrain
import SmwRecomp.Coop.Clearance
import SmwRecomp.Coop.Acceptance
import SmwRecomp.Coop.Placement
import SmwRecomp.Coop.Recovery
import SmwRecomp.Coop.RecoveryHomes
import SmwRecomp.Renderer.MapTile
import SmwRecomp.Renderer.DrawIndex
import SmwRecomp.Hooks.Text
import SmwRecomp.Hooks.Overrides
import SmwRecomp.Hooks.Renderer
import SmwRecomp.Hooks.Coop
import SmwRecomp.Hooks.Banked
import SmwRecomp.Hooks.Orders
import SmwRecomp.Lib.Chain
import SmwRecomp.Config.KeyMap
import SmwRecomp.Config.GamepadMap
import SmwRecomp.Input.Commands
import SmwRecomp.Input.Gamepads
import SmwRecomp.Input.DeadZone
import SmwRecomp.Lib.Spans
import SmwRecomp.Ingest.Regions
import SmwRecomp.Ingest.Configs
import SmwRecomp.Ingest.Entries
import SmwRecomp.Ingest.Reimport
import SmwRecomp.Config.Reader
import SmwRecomp.Config.Reload
import SmwRecomp.Config.Writer
import SmwRecomp.Config.Persist
import SmwRecomp.Lib.Taps
import SmwRecomp.Falcon.Dash
import SmwRecomp.Falcon.States
import SmwRecomp.Falcon.Adapter
import SmwRecomp.Falcon.Departure
import SmwRecomp.Lib.Recall
import SmwRecomp.Falcon.Blocks
import SmwRecomp.Falcon.Locomotion
import SmwRecomp.Falcon.Jumps
import SmwRecomp.Lib.Flagged
import SmwRecomp.Falcon.Presentation
import SmwRecomp.Falcon.Drawing
import SmwRecomp.Falcon.Reanchor
import SmwRecomp.Owner.Vpk0
import SmwRecomp.Lua.FireStream
import SmwRecomp.Lib.Turns
import SmwRecomp.Falcon.HelperCommand
import SmwRecomp.Falcon.Sprites
import SmwRecomp.Falcon.Combat
import SmwRecomp.Falcon.Blob
import SmwRecomp.Lib.Binary32
import SmwRecomp.Lib.Dict
import SmwRecomp.Falcon.Figatree
import SmwRecomp.Renderer.Scanline
import SmwRecomp.Lib.Rank
import SmwRecomp.Coop.Presentation
