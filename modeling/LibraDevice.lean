import LibraDevice.IpaNat.FailedAdd
import LibraDevice.NatCache.Coherence
import LibraDevice.LanToLan.Connections
import LibraDevice.LanToLan.Links
import LibraDevice.LanToLan.Effects
import LibraDevice.LanToLan.Dangling
import LibraDevice.LanToLan.PairCount
import LibraDevice.Lib.SlotTable
import LibraDevice.NatCache.Slots
import LibraDevice.NatCache.PowerSave
import LibraDevice.Conntrack.Listener
import LibraDevice.Conntrack.StaClients
import LibraDevice.Conntrack.Closing
import LibraDevice.Conntrack.Promotion
import LibraDevice.IpaNat.Lifecycle
import LibraDevice.Rm.Depend
import LibraDevice.Backhaul.Flags
import LibraDevice.Backhaul.Gateway
import LibraDevice.Backhaul.Tethers
import LibraDevice.Firewall.Attrib
import LibraDevice.Lib.RuleList
import LibraDevice.Firewall.Rules
import LibraDevice.Firewall.Policy
import LibraDevice.Firewall.Meaning
import LibraDevice.Lib.CountedTables
import LibraDevice.Xml.Cfg
import LibraDevice.Xml.FirewallCfg
import LibraDevice.Xml.Bounds
import LibraDevice.Firewall.Budget
import LibraDevice.Firewall.Obeyed
import LibraDevice.Firewall.Station
import LibraDevice.Firewall.Balance
import LibraDevice.Lan.ApSlots
import LibraDevice.Lan.Clients
import LibraDevice.Lan.WlanClients
import LibraDevice.Lan.ClientDown
import LibraDevice.Lan.Ledger
import LibraDevice.Lan.Sleepers
import LibraDevice.Lan.WlanAgree
import LibraDevice.Lan.WlanRuns
import LibraDevice.LanToLan.Owners
import LibraDevice.Lib.Mailbox
import LibraDevice.Lan.Addresses
import LibraDevice.Lan.Retracts
import LibraDevice.Lan.Outlive
import LibraDevice.Lib.KeyedList
import LibraDevice.Lan.Filtering
import LibraDevice.Lan.FltRules
import LibraDevice.Lib.NodeChain
import LibraDevice.Dispatch.EvtDispatcher
import LibraDevice.Dispatch.Delivery
import LibraDevice.Agps.StateMachine
import LibraDevice.Agps.Steps
import LibraDevice.Agps.DataCall
import LibraDevice.Agps.Changes
import LibraDevice.Agps.Subscriptions
import LibraDevice.Timers.LocHeap
import LibraDevice.Timers.LocTimer
import LibraDevice.Timers.Early
import LibraDevice.Timers.Armed
import LibraDevice.Timers.Disarmed
import LibraDevice.Neighbor.Cache
import LibraDevice.Neighbor.Live
import LibraDevice.Lib.Bytes
import LibraDevice.Lib.Records
import LibraDevice.Netlink.Events
import LibraDevice.Netlink.Message
import LibraDevice.Netlink.Routes
import LibraDevice.Netlink.Single
import LibraDevice.Netlink.Buffer
import LibraDevice.Config.PrivateSubnet
import LibraDevice.Config.NatIfaces
import LibraDevice.Lib.Ring
import LibraDevice.Sensors.SensorEventQueue
import LibraDevice.Sensors.Handles
import LibraDevice.Sensors.Routing
import LibraDevice.Sensors.Poll
import LibraDevice.Sensors.Delivery
import LibraDevice.Timers.Ends
import LibraDevice.Ni.Sessions
import LibraDevice.Ni.Answers
import LibraDevice.Agps.DsStateMachine
import LibraDevice.Agps.Fallback
import LibraDevice.Ifaces.IfaceManager
import LibraDevice.Ifaces.FollowsLinks
import LibraDevice.Lib.HandlePool
import LibraDevice.Lan2Lan.SlotPools
import LibraDevice.Lan2Lan.Mirrors
import LibraDevice.Timers.RankQueue
import LibraDevice.Utils.LinkedList
import LibraDevice.Utils.ListRuns
import LibraDevice.Utils.MsgQ
import LibraDevice.Agps.Notify
import LibraDevice.Lib.PrefixMask
import LibraDevice.Netlink.Masks
import LibraDevice.Xml.Entries
import LibraDevice.Xml.Elements
import LibraDevice.Xml.EntryMeaning
import LibraDevice.Xml.EntryExact
import LibraDevice.DmnConn.Server
import LibraDevice.DmnConn.Settled
import LibraDevice.DmnConn.Delivery
import LibraDevice.Lib.SharedObject
import LibraDevice.Utils.LocThread
import LibraDevice.Utils.ThreadOwners
import LibraDevice.Utils.ThreadOnce
import LibraDevice.Utils.ThreadRuns
import LibraDevice.Lib.Acquire
import LibraDevice.SetUp.Headers
import LibraDevice.SetUp.Leaks
import LibraDevice.SetUp.Accepts
import LibraDevice.LocEng.Engine
import LibraDevice.LocEng.Mute
import LibraDevice.LocEng.Session
import LibraDevice.Lib.Hex
import LibraDevice.Wifi.Readmac
import LibraDevice.Lib.PackedArray
import LibraDevice.LocApi.Adapters
import LibraDevice.LocApi.Registered
import LibraDevice.Lib.StepRun
import LibraDevice.Iface.SoftwareRouting
import LibraDevice.LocEng.AidingData
import LibraDevice.Conntrack.Filters
import LibraDevice.Lib.Holders
import LibraDevice.EthBridge.Clients
import LibraDevice.EthBridge.Released
import LibraDevice.Lib.TextLines
import LibraDevice.Lib.Countdown
import LibraDevice.LocCfg.Conf
import LibraDevice.LocCfg.Applied
import LibraDevice.Lib.CBuffer
import LibraDevice.Nmea.Sentence
import LibraDevice.Nmea.Position
import LibraDevice.Nmea.Satellites
import LibraDevice.Nmea.WellFormed
import LibraDevice.Nmea.SatelliteLists
import LibraDevice.Lib.DecimalRounding
import LibraDevice.Nmea.Coordinates
import LibraDevice.MiscUtils.SplitString
import LibraDevice.MiscUtils.TrimSpace
import LibraDevice.LocEng.EncodeInPlace
import LibraDevice.LocEng.SerialNo
import LibraDevice.Iface.RuleCalls
import LibraDevice.LanToLan.BothWays
import LibraDevice.IpaNat.TableSize
import LibraDevice.Lib.OnesComplement
import LibraDevice.IpaNat.Checksum
import LibraDevice.IpaNat.DmaOffset
import LibraDevice.IpaNat.DmaExact
import LibraDevice.Netlink.Behind
import LibraDevice.Dispatch.CmdQueue
import LibraDevice.Dispatch.CmdOrder
import LibraDevice.IpaNat.TimeStamps
import LibraDevice.Lib.Assignments
import LibraDevice.Lights.SetLight
import LibraDevice.Lights.Files
import LibraDevice.Lan.Uplink
import LibraDevice.Firewall.Downlink
import LibraDevice.Firewall.WanTables
