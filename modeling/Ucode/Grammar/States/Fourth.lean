import Ucode.Grammar.StateRow

/-!
# Parse states 1152 to 1482
-/
namespace Ucode.Grammar

/-- Parse states from 1152 on. -/
def states18 : Array StateRow := #[
  ⟨20, 1171_106_1172_146_0002_002, 1125_051⟩,
  ⟨26, 1173_106_1174_032_0002_002, 1124_050⟩,
  ⟨20, 1175_003_0002_002, 1367_019_1154_053⟩,
  ⟨26, 1176_106_1177_032_0002_002, 1157_050⟩,
  ⟨20, 1178_106_1179_146_0002_002, 1158_051⟩,
  ⟨26, 1180_106_1038_032_0002_002, 1172_050⟩,
  ⟨20, 1181_106_1182_146_0002_002, 1125_051⟩,
  ⟨20, 1050_003_0002_002, 1285_019_1161_053⟩,
  ⟨20, 1183_003_0002_002, 1264_019_1160_052⟩,
  ⟨20, 1050_003_0002_002, 1451_019_1154_053⟩,
  ⟨20, 1050_003_0002_002, 1114_019_1127_052⟩,
  ⟨26, 1184_106_1185_032_0002_002, 1165_050⟩,
  ⟨20, 1186_106_1187_146_0002_002, 1166_051⟩,
  ⟨26, 1188_106_1049_032_0002_002, 1172_050⟩,
  ⟨20, 1189_106_1190_146_0002_002, 1125_051⟩,
  ⟨20, 1191_003_0002_002, 0328_019_1178_052⟩,
  ⟨20, 1148_003_0002_002, 1094_019_1160_052⟩,
  ⟨20, 1050_003_0002_002, 1339_019_1170_053⟩,
  ⟨20, 1050_003_0002_002, 1369_019_1154_053⟩,
  ⟨26, 1192_106_1193_032_0002_002, 1176_050⟩,
  ⟨26, 1194_106_1195_032_0002_002, 1172_050⟩,
  ⟨20, 1196_106_1197_146_0002_002, 1177_051⟩,
  ⟨20, 1050_003_0002_002, 1388_019_1175_053⟩,
  ⟨20, 1050_003_0002_002, 1279_019_1154_053⟩,
  ⟨26, 1198_106_1020_032_0002_002, 1172_050⟩,
  ⟨20, 1199_106_1200_146_0002_002, 1125_051⟩,
  ⟨20, 1191_003_0002_002, 0329_019_1160_052⟩,
  ⟨31, 0002_002_1202_033_1201_261, 0⟩,
  ⟨26, 1204_259_0002_002_1203_249, 0⟩,
  ⟨20, 1050_003_1164_012_0002_002, 1463_019⟩,
  ⟨20, 1050_003_1205_012_0002_002, 1469_019⟩,
  ⟨20, 1050_003_1206_012_0002_002, 1471_019⟩,
  ⟨20, 1050_003_1207_012_0002_002, 1473_019⟩,
  ⟨20, 1050_003_1208_012_0002_002, 1475_019⟩,
  ⟨20, 1050_003_1209_012_0002_002, 1477_019⟩,
  ⟨20, 1050_003_1164_012_0002_002, 1460_019⟩,
  ⟨20, 1210_106_1211_146_0002_002, 1144_051⟩,
  ⟨20, 1212_106_1213_152_0002_002, 0⟩,
  ⟨20, 1212_106_1214_152_0002_002, 0⟩,
  ⟨28, 1215_044_1216_014_0002_002, 0⟩,
  ⟨20, 1217_106_1218_152_0002_002, 0⟩,
  ⟨20, 1219_012_0002_002, 0143_054⟩,
  ⟨28, 1220_044_1221_014_0002_002, 0⟩,
  ⟨20, 1212_106_1222_152_0002_002, 0⟩,
  ⟨20, 1050_003_0002_002, 1373_019⟩,
  ⟨28, 1223_012_1224_014_0002_002, 0⟩,
  ⟨20, 1225_012_0002_002, 1461_054⟩,
  ⟨20, 1212_106_1226_152_0002_002, 0⟩,
  ⟨26, 0002_002_1227_249, 0⟩,
  ⟨26, 0002_002_1228_249, 0⟩,
  ⟨20, 1229_106_1230_262_0002_002, 0⟩,
  ⟨20, 1050_003_0002_002, 1393_019⟩,
  ⟨20, 1092_003_0002_002, 0173_023⟩,
  ⟨20, 0002_002_1231_263, 0⟩,
  ⟨20, 1050_003_0002_002, 1408_019⟩,
  ⟨20, 1212_106_1232_152_0002_002, 0⟩,
  ⟨20, 1219_012_0002_002, 0144_054⟩,
  ⟨20, 1219_012_0002_002, 0155_054⟩,
  ⟨20, 1219_012_0002_002, 0135_054⟩,
  ⟨20, 1212_106_1233_152_0002_002, 0⟩,
  ⟨20, 1234_003_0002_002, 1386_019⟩,
  ⟨30, 0002_002_1235_264, 0⟩,
  ⟨20, 1050_003_0002_002, 1356_019⟩,
  ⟨20, 1236_106_1237_152_0002_002, 0⟩]

/-- Parse states from 1216 on. -/
def states19 : Array StateRow := #[
  ⟨26, 0002_002_1238_249, 0⟩,
  ⟨20, 0002_002_1239_252, 0⟩,
  ⟨20, 1050_003_0002_002, 1420_019⟩,
  ⟨26, 1240_106_1241_032_0002_002, 0⟩,
  ⟨20, 1242_106_1243_262_0002_002, 0⟩,
  ⟨26, 0002_002_1195_249, 0⟩,
  ⟨26, 1244_106_1245_032_0002_002, 0⟩,
  ⟨20, 1217_106_1246_152_0002_002, 0⟩,
  ⟨28, 1247_044_1248_014_0002_002, 0⟩,
  ⟨28, 1249_012_1250_014_0002_002, 0⟩,
  ⟨20, 1050_003_0002_002, 1455_019⟩,
  ⟨20, 1089_003_0002_002, 0381_023⟩,
  ⟨28, 1251_044_1252_014_0002_002, 0⟩,
  ⟨20, 1212_106_1253_152_0002_002, 0⟩,
  ⟨20, 1212_106_1254_152_0002_002, 0⟩,
  ⟨26, 0002_002_1255_249, 0⟩,
  ⟨20, 1098_003_0002_002, 0311_023⟩,
  ⟨20, 1212_106_1256_152_0002_002, 0⟩,
  ⟨20, 1096_003_0002_002, 0363_023⟩,
  ⟨28, 1257_012_1258_014_0002_002, 0⟩,
  ⟨20, 1212_106_1259_152_0002_002, 0⟩,
  ⟨26, 1240_106_1260_032_0002_002, 0⟩,
  ⟨26, 0002_002_1261_249, 0⟩,
  ⟨20, 1212_106_1262_152_0002_002, 0⟩,
  ⟨20, 1212_106_1263_152_0002_002, 0⟩,
  ⟨20, 1109_003_0002_002, 1200_019⟩,
  ⟨20, 1109_003_0002_002, 1201_019⟩,
  ⟨26, 0002_002_0601_249, 0⟩,
  ⟨20, 1050_003_0002_002, 1429_019⟩,
  ⟨30, 0002_002_1264_264, 0⟩,
  ⟨20, 1050_003_0002_002, 1284_019⟩,
  ⟨20, 1050_003_0002_002, 1287_019⟩,
  ⟨26, 1240_106_1265_032_0002_002, 0⟩,
  ⟨26, 1244_106_1266_032_0002_002, 0⟩,
  ⟨20, 1050_003_0002_002, 1465_019⟩,
  ⟨20, 1050_003_0002_002, 1474_019⟩,
  ⟨20, 1212_106_1267_152_0002_002, 0⟩,
  ⟨20, 1050_003_0002_002, 1319_019⟩,
  ⟨20, 1203_106_1268_259_0002_002, 0⟩,
  ⟨26, 1240_106_1269_032_0002_002, 0⟩,
  ⟨20, 1101_003_0002_002, 0361_023⟩,
  ⟨20, 1050_003_0002_002, 1432_019⟩,
  ⟨20, 1050_003_0002_002, 1433_019⟩,
  ⟨20, 1212_106_1270_152_0002_002, 0⟩,
  ⟨20, 1140_106_1271_259_0002_002, 0⟩,
  ⟨20, 1104_003_0002_002, 0160_023⟩,
  ⟨20, 0002_002_1272_252, 0⟩,
  ⟨20, 1094_003_0002_002, 0319_023⟩,
  ⟨20, 1273_049_0628_106_0002_002, 0⟩,
  ⟨28, 1274_012_1275_014_0002_002, 0⟩,
  ⟨20, 1276_152_0002_002, 0⟩,
  ⟨20, 1277_012_0002_002, 0⟩,
  ⟨20, 1278_003_0002_002, 0⟩,
  ⟨20, 1279_152_0002_002, 0⟩,
  ⟨20, 1280_152_0002_002, 0⟩,
  ⟨20, 1281_152_0002_002, 0⟩,
  ⟨20, 1261_106_0002_002, 0⟩,
  ⟨20, 1282_146_0002_002, 0⟩,
  ⟨32, 0002_002_1283_027, 0⟩,
  ⟨20, 1284_003_0002_002, 0⟩,
  ⟨31, 0002_002_1285_033, 0⟩,
  ⟨20, 1286_041_0002_002, 0⟩,
  ⟨20, 1287_152_0002_002, 0⟩,
  ⟨20, 1288_049_0002_002, 0⟩]

/-- Parse states from 1280 on. -/
def states20 : Array StateRow := #[
  ⟨20, 1289_146_0002_002, 0⟩,
  ⟨20, 1290_152_0002_002, 0⟩,
  ⟨20, 1291_012_0002_002, 0⟩,
  ⟨20, 1292_152_0002_002, 0⟩,
  ⟨20, 1227_106_0002_002, 0⟩,
  ⟨20, 1293_049_0002_002, 0⟩,
  ⟨20, 1294_152_0002_002, 0⟩,
  ⟨20, 1228_106_0002_002, 0⟩,
  ⟨33, 1295_265_1296_002, 0⟩,
  ⟨20, 1297_003_0002_002, 0⟩,
  ⟨33, 1298_265_1296_002, 0⟩,
  ⟨33, 1299_265_1296_002, 0⟩,
  ⟨20, 1300_051_0002_002, 0⟩,
  ⟨20, 1301_262_0002_002, 0⟩,
  ⟨20, 1302_152_0002_002, 0⟩,
  ⟨20, 1303_139_0002_002, 0⟩,
  ⟨20, 1304_146_0002_002, 0⟩,
  ⟨32, 0002_002_1305_027, 0⟩,
  ⟨20, 1306_152_0002_002, 0⟩,
  ⟨20, 1244_106_0002_002, 0⟩,
  ⟨28, 1307_014_0002_002, 0⟩,
  ⟨31, 0002_002_1308_033, 0⟩,
  ⟨20, 1204_259_0002_002, 0⟩,
  ⟨28, 1309_014_0002_002, 0⟩,
  ⟨20, 1310_262_0002_002, 0⟩,
  ⟨33, 1311_265_1296_002, 0⟩,
  ⟨20, 1312_152_0002_002, 0⟩,
  ⟨20, 1255_106_0002_002, 0⟩,
  ⟨20, 1313_146_0002_002, 0⟩,
  ⟨32, 0002_002_1314_027, 0⟩,
  ⟨20, 1315_152_0002_002, 0⟩,
  ⟨20, 1316_146_0002_002, 0⟩,
  ⟨20, 1317_152_0002_002, 0⟩,
  ⟨20, 1318_146_0002_002, 0⟩,
  ⟨32, 0002_002_1319_027, 0⟩,
  ⟨20, 1320_146_0002_002, 0⟩,
  ⟨20, 1321_139_0002_002, 0⟩,
  ⟨20, 1322_051_0002_002, 0⟩,
  ⟨31, 0002_002_1323_033, 0⟩,
  ⟨20, 1324_152_0002_002, 0⟩,
  ⟨20, 1325_044_0002_002, 0⟩,
  ⟨20, 1326_259_0002_002, 0⟩,
  ⟨20, 1327_051_0002_002, 0⟩,
  ⟨20, 1328_152_0002_002, 0⟩,
  ⟨25, 0002_002_1329_248, 0⟩,
  ⟨28, 1330_014_0002_002, 0⟩,
  ⟨20, 1331_152_0002_002, 0⟩,
  ⟨28, 1332_014_0002_002, 0⟩,
  ⟨33, 1333_265_1296_002, 0⟩,
  ⟨20, 1334_259_0002_002, 0⟩,
  ⟨20, 1335_152_0002_002, 0⟩,
  ⟨20, 1336_262_0002_002, 0⟩,
  ⟨20, 1337_262_0002_002, 0⟩,
  ⟨20, 1338_266_0002_002, 0⟩,
  ⟨20, 1339_051_0002_002, 0⟩,
  ⟨20, 1340_051_0002_002, 0⟩,
  ⟨20, 1341_152_0002_002, 0⟩,
  ⟨25, 0002_002_1342_248, 0⟩,
  ⟨24, 0002_002_1343_246, 0⟩,
  ⟨20, 1344_049_0002_002, 0⟩,
  ⟨28, 1345_014_0002_002, 0⟩,
  ⟨20, 1268_259_0002_002, 0⟩,
  ⟨20, 1346_259_0002_002, 0⟩,
  ⟨20, 1347_152_0002_002, 0⟩]

/-- Parse states from 1344 on. -/
def states21 : Array StateRow := #[
  ⟨20, 1348_152_0002_002, 0⟩,
  ⟨20, 1349_152_0002_002, 0⟩,
  ⟨28, 1350_014_0002_002, 0⟩,
  ⟨20, 1351_152_0002_002, 0⟩,
  ⟨28, 1352_014_0002_002, 0⟩,
  ⟨20, 1353_146_0002_002, 0⟩,
  ⟨20, 1354_262_0002_002, 0⟩,
  ⟨20, 1355_262_0002_002, 0⟩,
  ⟨28, 1356_014_0002_002, 0⟩,
  ⟨20, 1357_152_0002_002, 0⟩,
  ⟨20, 1358_044_0002_002, 0⟩,
  ⟨20, 1359_051_0002_002, 0⟩,
  ⟨20, 1360_152_0002_002, 0⟩,
  ⟨31, 0002_002_1361_033, 0⟩,
  ⟨28, 1362_014_0002_002, 0⟩,
  ⟨28, 1363_014_0002_002, 0⟩,
  ⟨20, 1364_139_0002_002, 0⟩,
  ⟨20, 1365_051_0002_002, 0⟩,
  ⟨28, 1366_014_0002_002, 0⟩,
  ⟨28, 1367_014_0002_002, 0⟩,
  ⟨28, 1368_014_0002_002, 0⟩,
  ⟨20, 1369_012_0002_002, 0⟩,
  ⟨28, 1370_014_0002_002, 0⟩,
  ⟨20, 1371_049_0002_002, 0⟩,
  ⟨20, 1372_051_0002_002, 0⟩,
  ⟨20, 1373_049_0002_002, 0⟩,
  ⟨25, 0002_002_1374_248, 0⟩,
  ⟨28, 1375_014_0002_002, 0⟩,
  ⟨20, 1376_152_0002_002, 0⟩,
  ⟨20, 1377_152_0002_002, 0⟩,
  ⟨28, 1378_014_0002_002, 0⟩,
  ⟨28, 1379_014_0002_002, 0⟩,
  ⟨28, 1380_014_0002_002, 0⟩,
  ⟨20, 1236_106_0002_002, 0⟩,
  ⟨31, 0002_002_1381_033, 0⟩,
  ⟨31, 0002_002_1382_033, 0⟩,
  ⟨25, 0002_002_1383_248, 0⟩,
  ⟨28, 1384_014_0002_002, 0⟩,
  ⟨31, 0002_002_1385_033, 0⟩,
  ⟨20, 1386_146_0002_002, 0⟩,
  ⟨28, 1387_014_0002_002, 0⟩,
  ⟨28, 1388_014_0002_002, 0⟩,
  ⟨20, 1389_147_0002_002, 0⟩,
  ⟨32, 0002_002_1390_027, 0⟩,
  ⟨20, 1391_049_0002_002, 0⟩,
  ⟨20, 1392_266_0002_002, 0⟩,
  ⟨25, 0002_002_1393_248, 0⟩,
  ⟨28, 1394_014_0002_002, 0⟩,
  ⟨20, 1395_139_0002_002, 0⟩,
  ⟨20, 1396_147_0002_002, 0⟩,
  ⟨28, 1397_014_0002_002, 0⟩,
  ⟨28, 1398_014_0002_002, 0⟩,
  ⟨28, 1399_014_0002_002, 0⟩,
  ⟨20, 1400_146_0002_002, 0⟩,
  ⟨32, 0002_002_1401_027, 0⟩,
  ⟨20, 1402_152_0002_002, 0⟩,
  ⟨25, 0002_002_1403_248, 0⟩,
  ⟨28, 1404_014_0002_002, 0⟩,
  ⟨20, 1240_106_0002_002, 0⟩,
  ⟨20, 1405_152_0002_002, 0⟩,
  ⟨28, 1406_014_0002_002, 0⟩,
  ⟨28, 1407_014_0002_002, 0⟩,
  ⟨28, 1408_014_0002_002, 0⟩,
  ⟨20, 1409_146_0002_002, 0⟩]

/-- Parse states from 1408 on. -/
def states22 : Array StateRow := #[
  ⟨20, 1410_012_0002_002, 0⟩,
  ⟨24, 0002_002_1411_246, 0⟩,
  ⟨25, 0002_002_1412_248, 0⟩,
  ⟨28, 1413_014_0002_002, 0⟩,
  ⟨20, 1414_146_0002_002, 0⟩,
  ⟨20, 1415_044_0002_002, 0⟩,
  ⟨28, 1416_014_0002_002, 0⟩,
  ⟨28, 1417_014_0002_002, 0⟩,
  ⟨28, 1418_014_0002_002, 0⟩,
  ⟨20, 1419_012_0002_002, 0⟩,
  ⟨20, 1420_262_0002_002, 0⟩,
  ⟨20, 1421_051_0002_002, 0⟩,
  ⟨20, 1422_152_0002_002, 0⟩,
  ⟨20, 1423_152_0002_002, 0⟩,
  ⟨31, 0002_002_1424_033, 0⟩,
  ⟨20, 1425_152_0002_002, 0⟩,
  ⟨20, 1426_266_0002_002, 0⟩,
  ⟨28, 1427_014_0002_002, 0⟩,
  ⟨20, 1428_146_0002_002, 0⟩,
  ⟨20, 1429_152_0002_002, 0⟩,
  ⟨20, 1430_266_0002_002, 0⟩,
  ⟨20, 1431_262_0002_002, 0⟩,
  ⟨20, 1432_152_0002_002, 0⟩,
  ⟨20, 1433_152_0002_002, 0⟩,
  ⟨20, 1434_152_0002_002, 0⟩,
  ⟨20, 1435_152_0002_002, 0⟩,
  ⟨20, 0891_044_0002_002, 0⟩,
  ⟨28, 1436_014_0002_002, 0⟩,
  ⟨20, 1437_152_0002_002, 0⟩,
  ⟨20, 1438_262_0002_002, 0⟩,
  ⟨20, 1439_152_0002_002, 0⟩,
  ⟨20, 1440_262_0002_002, 0⟩,
  ⟨20, 1212_106_0002_002, 0⟩,
  ⟨20, 1441_152_0002_002, 0⟩,
  ⟨31, 0002_002_1442_033, 0⟩,
  ⟨20, 1443_152_0002_002, 0⟩,
  ⟨31, 0002_002_1444_033, 0⟩,
  ⟨20, 1445_012_0002_002, 0⟩,
  ⟨20, 1446_152_0002_002, 0⟩,
  ⟨20, 1447_051_0002_002, 0⟩,
  ⟨20, 1448_152_0002_002, 0⟩,
  ⟨33, 1449_265_1296_002, 0⟩,
  ⟨28, 1450_014_0002_002, 0⟩,
  ⟨20, 1451_049_0002_002, 0⟩,
  ⟨20, 1452_003_0002_002, 0⟩,
  ⟨20, 1453_152_0002_002, 0⟩,
  ⟨28, 1454_014_0002_002, 0⟩,
  ⟨20, 1455_152_0002_002, 0⟩,
  ⟨20, 1456_152_0002_002, 0⟩,
  ⟨20, 1457_146_0002_002, 0⟩,
  ⟨20, 1458_152_0002_002, 0⟩,
  ⟨20, 1459_051_0002_002, 0⟩,
  ⟨20, 1460_012_0002_002, 0⟩,
  ⟨20, 1461_044_0002_002, 0⟩,
  ⟨32, 0002_002_1462_027, 0⟩,
  ⟨20, 1463_012_0002_002, 0⟩,
  ⟨20, 1464_146_0002_002, 0⟩,
  ⟨20, 1465_012_0002_002, 0⟩,
  ⟨20, 1466_262_0002_002, 0⟩,
  ⟨20, 1467_152_0002_002, 0⟩,
  ⟨33, 1468_265_1296_002, 0⟩,
  ⟨20, 1469_012_0002_002, 0⟩,
  ⟨20, 1470_152_0002_002, 0⟩,
  ⟨20, 1471_012_0002_002, 0⟩]

/-- Parse states from 1472 on. -/
def states23 : Array StateRow := #[
  ⟨20, 1472_139_0002_002, 0⟩,
  ⟨20, 1473_012_0002_002, 0⟩,
  ⟨20, 1474_152_0002_002, 0⟩,
  ⟨20, 1475_012_0002_002, 0⟩,
  ⟨20, 1217_106_0002_002, 0⟩,
  ⟨20, 1476_012_0002_002, 0⟩,
  ⟨28, 1477_014_0002_002, 0⟩,
  ⟨20, 1478_012_0002_002, 0⟩,
  ⟨28, 1479_014_0002_002, 0⟩,
  ⟨20, 1480_051_0002_002, 0⟩,
  ⟨28, 1481_014_0002_002, 0⟩]

end Ucode.Grammar
